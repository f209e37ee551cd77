/-
What the records of sessions and messages rest on, task by task.

The record of a session lists all messages that the session has when it ends; those with a verdict have
had records of their own handed over. So each task is asked what it does to the messages with a
verdict, to the session that messages belong to, and to the sessions that can no longer be found.

* `concludedIds_of_outcome`: a task gives one message a verdict, or none;
* `messageIds_eq`: besides those, a session has its open message at most;
* `gone_step`: the sessions that a task removes are those whose records it hands over.
-/
import MailFilter.Proofs.Filter.Alone
import MailFilter.Proofs.Traffic.Race
import MailFilter.Proofs.Traffic.Sequential

namespace MailFilter

variable {σ : Type}

/-! ### Messages with a verdict -/

namespace Session

variable {s s' : Session} {m m' : Message}

/-- The identifiers of the messages of `s` that have a verdict. -/
def concludedIds (s : Session) : List Uuid :=
  (s.messages.filter (·.isFinalized)).map (·.id)

theorem concludedIds_sublist (s : Session) : s.concludedIds.Sublist s.messageIds :=
  List.filter_sublist.map _

theorem concludedIds_congr (h : s'.messages = s.messages) : s'.concludedIds = s.concludedIds := by
  rw [concludedIds, concludedIds, h]

theorem concludedIds_of_current? (hm : s.current? = some m) :
    s.concludedIds = (s.messages.dropLast.filter (·.isFinalized)).map (·.id) := by
  -- the message without a verdict is the last one
  have hopen : m.isFinalized = false := (current?_eq_some.1 hm).2
  rw [concludedIds]
  conv =>
    lhs
    rw [messages_of_current? hm]
  simp [List.filter_append, hopen]

theorem concludedIds_replaceLast (hm : s.current? = some m) (m' : Message) :
    (s.replaceLast m').concludedIds
      = s.concludedIds ++ ([m'].filter (·.isFinalized)).map (·.id) := by
  rw [concludedIds_of_current? hm, concludedIds, messages_replaceLast, List.filter_append,
    List.map_append]

theorem concludedIds_replaceLast_open (hm : s.current? = some m) (hv : m'.verdict = none) :
    (s.replaceLast m').concludedIds = s.concludedIds := by
  rw [concludedIds_replaceLast hm]
  simp [Message.isFinalized, hv]

theorem concludedIds_abort (s : Session) : s.abort.2.concludedIds = s.concludedIds := by
  unfold abort
  cases hm : s.current? with
  | some m => exact (concludedIds_of_current? hm).symm
  | none => rfl

/-- A `Settled` session has the messages with a verdict, and the open one if there is one. -/
theorem messageIds_eq (hs : s.Settled) :
    s.messageIds = s.concludedIds ++ (s.current?.map (·.id)).toList := by
  cases hm : s.current? with
  | some m =>
    have hall : s.messages.dropLast.filter (·.isFinalized) = s.messages.dropLast :=
      List.filter_eq_self.2 hs
    rw [concludedIds_of_current? hm, hall, messageIds]
    conv =>
      lhs
      rw [messages_of_current? hm]
    simp
  | none =>
    have hall : s.messages.filter (·.isFinalized) = s.messages :=
      List.filter_eq_self.2 (isFinalized_of_settled hs hm)
    rw [concludedIds, hall]
    simp [messageIds]

theorem not_mem_abort (hm : s.current? = some m) (hnodup : s.messageIds.Nodup) :
    m.id ∉ s.abort.2.messageIds := by
  have habort : s.abort.2.messageIds = s.messages.dropLast.map (·.id) := by
    unfold abort
    rw [hm]
    rfl
  rw [messageIds, messages_of_current? hm, List.map_append, List.nodup_append] at hnodup
  rw [habort]
  intro hmem
  exact hnodup.2.2 _ hmem _ (List.mem_singleton.2 rfl) rfl

end Session

theorem Callback.Effect.concludedIds_eq {c : Callback} {message : Uuid} {now : Timestamp}
    {s s' : Session} {result : Except Failure Unit} (h : c.Effect message now s result s') :
    s'.concludedIds = s.concludedIds := by
  cases h with
  | refused _ _ | greeted _ _ | missed _ _ _ => rfl
  | begun _ _ =>
    simp [Session.concludedIds, List.filter_append, Message.new, Message.isFinalized]
  | @touched position connection m m' ht hp hm htouch hs =>
    have hm' : ({ s with position, connection } : Session).current? = some m := hm
    exact Session.concludedIds_replaceLast_open hm'
      (hs.verdict.trans (Session.verdict_of_current? hm))
  | abandoned _ => exact s.concludedIds_abort

/-- Messages belong to the session `s` that they are in. -/
def Session.Home (s : Session) : Prop :=
  ∀ m ∈ s.messages, m.session = s.id

theorem Session.Home.replaceLast {s : Session} (h : s.Home) {m m' : Message}
    (hm : s.current? = some m) (hm' : m'.session = m.session) : (s.replaceLast m').Home := by
  intro x hx
  rcases List.mem_append.1 hx with hx | hx
  · exact h x (List.dropLast_subset _ hx)
  · rw [List.mem_singleton.1 hx, hm']
    exact h m (Session.mem_of_current? hm)

theorem Session.Home.abort {s : Session} (h : s.Home) : s.abort.2.Home := by
  have hid : s.abort.2.id = s.id := by
    unfold Session.abort
    cases s.current? <;> rfl
  intro m hm
  rw [hid]
  exact h m (Session.mem_of_mem_abort hm)

theorem Callback.Effect.home {c : Callback} {message : Uuid} {now : Timestamp} {s s' : Session}
    {result : Except Failure Unit} (h : c.Effect message now s result s') (hs : s.Home) :
    s'.Home := by
  cases h with
  | refused _ _ | greeted _ _ | missed _ _ _ => exact hs
  | begun _ _ =>
    intro m hm
    rcases List.mem_append.1 hm with hm | hm
    · exact hs m hm
    · rw [List.mem_singleton.1 hm]
      rfl
  | @touched position connection m m' ht hp hm htouch hsame =>
    have hs' : ({ s with position, connection } : Session).Home := hs
    exact hs'.replaceLast hm hsame.session
  | abandoned _ => exact hs.abort

namespace Task.Outcome

variable {f : Filter σ} {st : FilterState σ} {id : Uuid} {s s' : Session} {task : Task σ}
  {p : Progress σ}

theorem home (h : task.Outcome f st id s p s') (hs : s.Home) : s'.Home := by
  cases h with
  | failed _ he | followed _ he => exact he.home hs
  | accepted hm => exact hs.replaceLast hm rfl
  | concluded _ hm _ _ => exact hs.replaceLast hm rfl
  | _ => exact hs

end Task.Outcome

namespace Traffic

/-- A task gives a message a verdict just if it records one, as `concluded?` tells, and then it is the
last of them. -/
theorem concludedIds_of_outcome {f : Filter σ} {st state : FilterState σ} {id : Uuid}
    {s s' : Session} {task : Task σ} {p : Progress σ} (i : Nat)
    (h : task.Outcome f st id s p s') :
    s'.concludedIds = s.concludedIds
      ++ ((⟨i, task, st, p, state⟩ : Event σ).concluded?.map (·.2.id)).toList := by
  have hnone : s'.concludedIds = s.concludedIds → (∀ r record, p ≠ .next (.concluded r record)) →
      s'.concludedIds = s.concludedIds
        ++ ((⟨i, task, st, p, state⟩ : Event σ).concluded?.map (·.2.id)).toList := by
    intro hsame hp
    have hc : (⟨i, task, st, p, state⟩ : Event σ).concluded? = none := by
      rw [Option.eq_none_iff_forall_ne_some]
      rintro ⟨r, record⟩ hc
      exact hp r record (Event.concluded?_eq_some.1 hc)
    rw [hc, hsame]
    exact (List.append_nil _).symm
  cases h with
  | failed _ he => exact hnone he.concludedIds_eq (by rintro r record ⟨⟩)
  | followed _ he => exact hnone he.concludedIds_eq (Filter.owes_follow _ _).2
  | @accepted _ _ _ m hm =>
    have hopen := Session.verdict_of_current? hm
    refine hnone (Session.concludedIds_replaceLast_open hm ?_) (by rintro r record ⟨⟩)
    exact hopen
  | concluded _ hm _ _ =>
    rw [Session.concludedIds_replaceLast hm]
    rfl
  | _ => exact hnone rfl (by rintro r record ⟨⟩)

end Traffic

/-! ### What a callback has handed over -/

/-- A callback hands over what it has recorded, and that is the last it does: what it `Owes` then is
nothing. -/
theorem Progress.Owes.handed_eq {c : Callback} {a : Account} {p : Progress σ} (h : p.Owes c a) :
    a.handed = if p.task?.isNone then a.recorded else [] := by
  have htask : ∀ task : Task σ, task.Owes c a → a.handed = [] := by
    intro task htask
    cases task with
    | called _ _ | asking _ _ _ | gating _ _ _ _ _ _ | gated _ _ _ _ => rw [htask.2]
    | complete _ _ _ | judging _ _ _ _ | ruled _ | interrupted _ _ _ =>
      rw [show a = {} from htask]
    | concluded r record => rw [show a = { recorded := [(r, record)] } from htask]
    | told r record =>
      rw [show a = { recorded := [(r, record)], told := [(r, record)] } from htask]
  cases p with
  | next task | waiting _ task => exact htask task h
  | done outcome => rcases h with ⟨r, record, -, rfl⟩ | rfl | ⟨-, rfl⟩ <;> rfl

/-! ### Sessions that go -/

namespace Record

def message? : Record → Option MessageRecord
  | message record => some record
  | session _ => none

def session? : Record → Option SessionRecord
  | message _ => none
  | session record => some record

def id : Record → Uuid
  | message record => record.id
  | session record => record.id

theorem map_id_perm (records : List Record) :
    (records.map Record.id).Perm
      ((records.filterMap message?).map (·.id) ++ (records.filterMap session?).map (·.id)) := by
  induction records with
  | nil => exact .refl _
  | cons r rest ih =>
    cases r with
    | message record => exact ih.cons _
    | session record => exact (ih.cons _).trans List.perm_middle.symm

end Record

namespace Filter

variable {st : FilterState σ}

theorem gone_locked {β : Type} (id : Uuid) (stage : Stage) (change : Change Session β)
    (next : β → Progress σ) (st : FilterState σ) :
    (locked id stage change next st).2.sessions.gone = st.sessions.gone := by
  cases hs : st.sessions.held? id with
  | none => simp only [locked, changeHeld, hs]
  | some s =>
    rw [locked_of_held hs]
    exact SessionTable.gone_update ..

theorem gone_answerFailure (stage : Stage) (id : Option Uuid) (e : Failure)
    (st : FilterState σ) : (answerFailure stage id e st).2.sessions.gone = st.sessions.gone := by
  unfold answerFailure
  dsimp only
  split
  · split
    · exact SessionTable.gone_update ..
    · rfl
  · rfl

theorem gone_step (f : Filter σ) (st : FilterState σ) (task : Task σ) :
    (step f st task).2.sessions.gone.Perm
      (st.sessions.gone ++ ((task.hands st).filterMap Record.session?).map (·.id)) := by
  have hnone : (task.hands st).filterMap Record.session? = [] →
      (step f st task).2.sessions.gone = st.sessions.gone →
      (step f st task).2.sessions.gone.Perm
        (st.sessions.gone ++ ((task.hands st).filterMap Record.session?).map (·.id)) := by
    intro hhands hgone
    rw [hhands, hgone]
    simp
  cases task with
  | called id c =>
    by_cases hc : c = .close
    · subst hc
      show (st.leave f id).sessions.gone.Perm _
      rw [(leave_keeps f id st).1]
      have hids : ((Task.called id .close : Task σ).hands st).filterMap Record.session?
          = (st.sessions.remove id).1.map fun s => s.toRecord st.clock false := by
        simp [Task.hands, List.filterMap_map, Function.comp_def, Record.session?]
      rw [hids, List.map_map]
      exact SessionTable.gone_removeWhere ..
    -- only the end of a connection removes a session
    · have hhands : (Task.called id c : Task σ).hands st = [] := by
        cases c <;> first | rfl | exact absurd rfl hc
      refine hnone (by rw [hhands, List.filterMap_nil]) ?_
      show (act f id c st).2.sessions.gone = _
      rw [act_eq f id hc]
      exact gone_locked ..
  | asking id connection recipient | gating id connection recipient outcome deferred rest =>
    refine hnone rfl ?_
    simp only [step, gateOn]
    split <;> rfl
  | gated id connection recipient answer =>
    refine hnone rfl ?_
    simp only [step, gated]
    split
    · exact gone_locked ..
    · rfl
  | complete id config ctx =>
    refine hnone rfl ?_
    simp only [step, judge, judgeOn, receiveUntil]
    split <;> rfl
  | judging id config ctx j =>
    refine hnone rfl ?_
    simp only [step, judgeOn, receiveUntil]
    split <;> rfl
  | ruled r => exact hnone rfl (gone_locked ..)
  | concluded r record => exact hnone rfl rfl
  | told r record => exact hnone rfl rfl
  | interrupted stage id reason =>
    refine hnone rfl ?_
    cases reason with
    | failure e => exact gone_answerFailure ..
    | panic p =>
      simp only [step, answerInterruption]
      split
      · rfl
      · exact gone_answerFailure ..

theorem queue_evict (f : Filter σ) (removed : List Session) (st : FilterState σ) :
    (removed.foldl (FilterState.evict f) st).queue
      = (removed.map fun s => Record.session (s.toRecord st.clock true)).foldl Queue.enqueue
        st.queue := by
  induction removed generalizing st with
  | nil => rfl
  | cons s rest ih => exact ih (st.evict f s)

/-- To abandon a message with `abort` changes the session that it is in. -/
theorem held?_abort (f : Filter σ) {id : Uuid} {s : Session}
    (hs : st.sessions.held? id = some s) (id' : Uuid) :
    (f.step st (.called id .abort)).2.sessions.held? id'
      = if id = id' then some s.abort.2 else st.sessions.held? id' := by
  have hid : s.abort.2.id = id := by
    rw [← SessionTable.id_of_held? hs]
    unfold Session.abort
    cases s.current? <;> rfl
  have hs' : st.fresh.2.sessions.held? id = some s := hs
  show (act f id .abort st).2.sessions.held? id' = _
  rw [act_eq f id (by rintro ⟨⟩), locked_of_held hs']
  show (st.sessions.update s.abort.2).held? id' = _
  rw [SessionTable.held?_update, hid]
  by_cases heq : id = id'
  · rw [if_pos heq, if_pos heq, ← heq, hs]
    rfl
  · rw [if_neg heq, if_neg heq]

end Filter

end MailFilter
