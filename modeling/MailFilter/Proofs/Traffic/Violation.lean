/-
A session after `MAIL FROM` without exactly one sender.

Such a callback fails its session, and no stage leads on from there. Whatever callbacks come after it,
the session takes no further part in anything: they are refused when they have been carried out, and only
a message that is still open can be abandoned.

* `beside_or`: a move takes a callback on a session, carries one out, or passes the session by;
* `shut_outcome`: what a task on a failed session comes to;
* `handling_move`, `shut_move`: every move keeps how a callback fails its session, and what is left to
  its session after that;
* `violation_final`: the result for every row of moves after the violation.
-/
import MailFilter.Proofs.Traffic.AllowList
import MailFilter.Proofs.Traffic.Records

namespace MailFilter

variable {σ : Type}

/-! ### Failed sessions -/

/-- The reply to a callback on a session that has failed: `abort` and `close` go on as ever, `RCPT TO`
without a recipient is refused for good, and everything else is refused for now, unless the client is on
the allow list. -/
def Callback.refusal (listed : Bool) : Callback → Reply
  | abort | close => .proceed
  | envRcpt [] => .reject Reply.badRecipientText
  | _ => if listed then .proceed else .tempfail Reply.localErrorText

/-- A failed callback is answered alike by `ofFailure` for all reasons but one. -/
theorem Reply.ofFailure_eq {e : Failure} (he : ∀ stage, e ≠ .noSession stage) (listed : Bool) :
    Reply.ofFailure listed e = if listed then .proceed else .tempfail localErrorText := by
  unfold ofFailure
  cases e with
  | noSession stage => exact absurd rfl (he stage)
  | _ => rfl

theorem Session.failed_abort {s : Session} (h : s.position = .failed) :
    s.abort.2.position = .failed := by
  unfold abort
  rw [h]
  cases s.current? <;> rfl

/-- A message that `abort` abandons is the last one. -/
theorem Session.messages_abort (s : Session) :
    s.abort.2.messages ++ s.current?.toList = s.messages := by
  unfold abort
  cases hm : s.current? with
  | none => exact List.append_nil _
  | some m => exact (messages_of_current? hm).symm

/-- A callback on a failed session abandons a message, or it is refused, by its `Effect`. -/
theorem Callback.Effect.of_failed {c : Callback} {message : Uuid} {now : Timestamp} {s s' : Session}
    {result : Except Failure Unit} (h : c.Effect message now s result s')
    (hs : s.position = .failed) :
    (c = .abort ∧ result = .ok () ∧ s' = s.abort.2) ∨
      ∃ e connection, (∀ stage, e ≠ .noSession stage) ∧ result = .error e ∧
        s' = { s with connection } := by
  cases h with
  | @refused e connection he =>
    refine .inr ⟨e, connection, ?_, rfl, rfl⟩
    rcases he with ⟨n, rfl⟩ | rfl | rfl <;> rintro stage ⟨⟩
  | greeted _ hp | begun _ hp | missed _ hp _ | touched _ hp _ _ _ =>
    rw [hs] at hp
    cases hp
  | abandoned hc => exact .inl ⟨hc, rfl, rfl⟩

/-- The task is one of those that callbacks on a failed session come to. -/
def Task.isBrief : Task σ → Bool
  | called .. | interrupted .. => true
  | _ => false

namespace Traffic

/-- The message of the session `id` that the event abandons. -/
def Event.abandonedOf? (id : Uuid) (e : Event σ) : Option Message :=
  if e.task.session? = some id then e.abandoned? else none

/-- Anything but an abandoned message leaves a failed session failed, with all its messages, and nothing
comes of it but a callback that has failed: its tasks are all `isBrief`. -/
theorem shut_outcome {f : Filter σ} {st : FilterState σ} {id : Uuid} {s s' : Session}
    {task : Task σ} {p : Progress σ} (h : task.Outcome f st id s p s')
    (hbrief : task.isBrief = true) (habort : task ≠ .called id .abort) (hs : s.position = .failed) :
    s'.position = .failed ∧ s'.messages = s.messages ∧
      (∀ t, p.task? = some t → t.isBrief = true) ∧ ∀ r record, p ≠ .next (.concluded r record) := by
  cases h with
  | closed | answered => exact ⟨hs, rfl, by rintro t ⟨⟩, by rintro r record ⟨⟩⟩
  | ended _ => exact ⟨rfl, rfl, by rintro t ⟨⟩, by rintro r record ⟨⟩⟩
  | @failed c e s' hc he =>
    rcases he.of_failed hs with ⟨-, herror, -⟩ | ⟨e', connection, -, -, rfl⟩
    · cases herror
    · refine ⟨hs, rfl, ?_, by rintro r record ⟨⟩⟩
      rintro t ⟨⟩
      rfl
  | @followed c s' hc he =>
    rcases he.of_failed hs with ⟨rfl, -, -⟩ | ⟨e', connection, -, herror, -⟩
    · exact absurd rfl habort
    · cases herror
  | decided _ hq | panicked _ hq | asked _ hq =>
    cases task with
    | asking _ _ _ | gating _ _ _ _ _ _ => cases hbrief
    | _ => cases hq
  | awaited _ hm _ _ | judged _ hm _ =>
    cases task with
    | complete _ _ _ | judging _ _ _ _ => cases hbrief
    | _ => cases hm
  | refused _ | accepted _ | missed _ | concluded _ _ _ _ | lost _ _ | noted _ | handed _ =>
    cases hbrief

theorem step_abort (f : Filter σ) {st : FilterState σ} {id : Uuid} {s : Session}
    (hs : st.sessions.held? id = some s) :
    f.step st (.called id .abort) = (.replied .proceed, st.fresh.2.update s.abort.2) := by
  have hs' : st.fresh.2.sessions.held? id = some s := hs
  show f.act id .abort st = _
  rw [Filter.act_eq f id (by rintro ⟨⟩), Filter.locked_of_held hs']
  rfl

/-- A `step` on a failed session leaves it failed, with all its messages but one that is abandoned. -/
theorem shut_step (f : Filter σ) {st : FilterState σ} {id : Uuid} {s : Session} {task : Task σ}
    (hd : st.sessions.Distinct) (hheld : st.sessions.held? id = some s)
    (hbrief : task.isBrief = true) (hid : task.session? = some id) (hs : s.position = .failed)
    (e : Event σ) (htask : e.task = task) (hbefore : e.before = st) :
    (∃ s', (f.step st task).2.sessions.held? id = some s' ∧ s'.position = .failed ∧
      s'.messages ++ (e.abandonedOf? id).toList = s.messages) ∧
    (∀ t, (f.step st task).1.task? = some t → t.isBrief = true) ∧
    ∀ r record, (f.step st task).1 ≠ .next (.concluded r record) := by
  by_cases habort : task = .called id .abort
  · rw [habort] at htask
    have hdropped : e.abandonedOf? id = s.current? := by
      simp [Event.abandonedOf?, Event.abandoned?, htask, Task.session?, hbefore, hheld]
    have hheld' := Filter.held?_abort f hheld id
    rw [if_pos rfl] at hheld'
    rw [habort, hdropped]
    refine ⟨⟨s.abort.2, hheld', Session.failed_abort hs, s.messages_abort⟩, ?_⟩
    rw [step_abort f hheld]
    exact ⟨by rintro t ⟨⟩, by rintro r record ⟨⟩⟩
  · obtain ⟨s', ho, hsessions⟩ := f.outcome_step hd hid hheld
    obtain ⟨hfailed, hmessages, hnext, hconcluded⟩ := shut_outcome ho hbrief habort hs
    have hdropped : e.abandonedOf? id = none := by
      cases task with
      | called i c =>
        obtain rfl : i = id := Option.some.inj hid
        cases c with
        | abort => exact absurd rfl habort
        | _ => simp [Event.abandonedOf?, Event.abandoned?, htask]
      | _ => simp [Event.abandonedOf?, Event.abandoned?, htask]
    have hheld' := held?_of_outcome hheld ho hsessions id
    rw [if_pos rfl] at hheld'
    refine ⟨⟨s', hheld', hfailed, ?_⟩, hnext, hconcluded⟩
    rw [hdropped, hmessages]
    exact List.append_nil _

/-! ### Callbacks on a failed session -/

/-- How far the callback `c` on the failed session `id` has come, on its way to being refused. -/
inductive Refuses (id : Uuid) (listed : Bool) (c : Callback) : Progress σ → Prop
  | taken (hc : c ≠ .envRcpt []) : Refuses id listed c (.next (.called id c))
  | failed {stage : Stage} {e : Failure} (he : Reply.ofFailure listed e = c.refusal listed) :
      Refuses id listed c (.failed stage (some id) e)
  | refused : Refuses id listed c (.done (.ok { reply := c.refusal listed, mutations := [] }))

/-- A callback that finds a failed session goes on to be refused: what it comes to `Refuses` it. -/
theorem refuses_call {st : FilterState σ} {id : Uuid} {s : Session}
    (hs : st.sessions.find? id = some s) (c : Callback) :
    Refuses id s.isAllowListed c (Filter.call (some id) c st) := by
  by_cases hc : c = .envRcpt []
  · subst hc
    rw [Filter.call_withoutRecipient hs]
    exact .refused
  · rw [Filter.call_of_find? hs hc]
    exact .taken hc

theorem refuses_step (f : Filter σ) {st : FilterState σ} {id : Uuid} {s : Session} {c : Callback}
    {p : Progress σ} {task : Task σ} (hd : st.sessions.Distinct)
    (hs : st.sessions.find? id = some s) (hfailed : s.position = .failed)
    (h : Refuses id s.isAllowListed c p) (ht : p.task? = some task) :
    Refuses id s.isAllowListed c (f.step st task).1 := by
  cases h with
  | taken hc =>
    cases ht
    have hheld : st.fresh.2.sessions.held? id = some s := SessionTable.held?_of_find? hd hs
    show Refuses _ _ _ (f.act id c st).1
    by_cases hclose : c = .close
    · subst hclose
      exact .refused
    · have heffect := c.effect_change hclose (Uuid.issued st.serial) st.clock s
      rw [Filter.act_eq f id hclose, Filter.locked_of_held hheld, Change.andThen]
      revert heffect
      rcases hchange : c.change (Uuid.issued st.serial) st.clock s with ⟨result, s'⟩
      intro heffect
      rcases heffect.of_failed hfailed with ⟨rfl, hresult, -⟩ | ⟨e, connection, he, hresult, -⟩
      · obtain rfl : result = .ok () := hresult
        exact .refused
      · obtain rfl : result = .error e := hresult
        refine .failed ?_
        rw [Reply.ofFailure_eq he]
        -- an abandoned message is never refused
        cases c with
        | abort => cases hchange
        | close => exact absurd rfl hclose
        | envRcpt args =>
          cases args with
          | nil => exact absurd rfl hc
          | cons arg rest => rfl
        | _ => rfl
  | failed he =>
    cases ht
    rw [Filter.step, Filter.answerInterruption, Filter.answerFailure]
    simp only [Option.bind_some, hs]
    rw [he]
    exact .refused
  | refused => cases ht

/-! ### Moves beside a session -/

variable {f : Filter σ} {T T' : Traffic σ} {id : Uuid}

/-- A record belongs to the session that its verdict is for: messages are at `Home`, and rulings and
records agree. -/
structure Named (T : Traffic σ) : Prop where
  home : ∀ id s, T.state.sessions.held? id = some s → s.Home
  told : ∀ (i : Nat) (thread : Thread σ) (task : Task σ), T.threads[i]? = some thread →
    thread.progress.task? = some task →
    ∀ r record, task.told? = some (r, record) ∨ task.handed? = some (r, record) →
      record.session = r.session

theorem named_start (st : FilterState σ) : (start st).Named where
  home := by
    rintro id s ⟨⟩
  told := by
    intro i thread task hi
    simp [start] at hi

/-- A verdict gets into the record of a message of its session, by `told?` and `handed?`. -/
theorem session_of_outcome {st : FilterState σ} {s s' : Session} {task task' : Task σ}
    {p : Progress σ} (h : task.Outcome f st id s p s') (hhome : s.Home) (hid : s.id = id)
    (htold : ∀ r record, task.told? = some (r, record) → record.session = r.session)
    (hp : p.task? = some task') {r : Ruling} {record : MessageRecord}
    (htask : task'.told? = some (r, record) ∨ task'.handed? = some (r, record)) :
    record.session = r.session := by
  cases h with
  | concluded hr hm _ _ =>
    cases hp
    rcases htask with htask | htask
    · cases htask
      exact (hhome _ (Session.mem_of_current? hm)).trans (hid.trans hr.symm)
    · cases htask
  | noted _ =>
    cases hp
    rcases htask with htask | htask
    · cases htask
    · cases htask
      exact htold _ _ rfl
  | followed _ _ =>
    unfold Filter.follow at hp
    split at hp
    · cases hp
      rcases htask with ⟨⟨⟩⟩ | ⟨⟨⟩⟩
    · split at hp
      · cases hp
        rcases htask with ⟨⟨⟩⟩ | ⟨⟨⟩⟩
      · cases hp
        rcases htask with ⟨⟨⟩⟩ | ⟨⟨⟩⟩
    · cases hp
  | closed | refused _ | accepted _ | handed _ | answered | ended _ => cases hp
  | failed _ _ | decided _ _ | panicked _ _ | asked _ _ | missed _ | awaited _ _ _ _ | judged _ _ _
  | lost _ _ =>
    cases hp
    rcases htask with ⟨⟨⟩⟩ | ⟨⟨⟩⟩

theorem Named.call (h : T.Named) {thread : Thread σ}
    (hnew : ∀ task, thread.progress.task? = some task →
      task.told? = none ∧ task.handed? = none) :
    ({ T with threads := T.threads ++ [thread] } : Traffic σ).Named where
  home := h.home
  told := by
    intro i t task hi ht r record htask
    rcases getElem?_concat_iff.1 hi with hi | ⟨-, rfl⟩
    · exact h.told i t task hi ht r record htask
    · obtain ⟨htold, hhanded⟩ := hnew task ht
      rw [htold, hhanded] at htask
      rcases htask with ⟨⟨⟩⟩ | ⟨⟨⟩⟩

theorem named_of_moved {m : Move σ} (hT : T.Sound) (h : T.Named) (hm : Moved f T m T') :
    T'.Named := by
  cases hm with
  | @connected _ _ _ state s hid hposition hmessages hserial hsessions =>
    refine ⟨fun id x hx => ?_, h.told⟩
    rw [hsessions, SessionTable.held?_insert (hid ▸ hT.not_issued)] at hx
    split at hx
    · obtain rfl := Option.some.inj hx
      intro m hm
      rw [hmessages] at hm
      cases hm
    · exact h.home id x hx
  | taken hid => exact h.call (by rintro task ⟨⟩; exact ⟨rfl, rfl⟩)
  | replied hc => exact h.call (by rintro task ⟨⟩)
  | unknown => exact h.call (by rintro task ⟨⟩; exact ⟨rfl, rfl⟩)
  | @went i thread task p state id s s' hi ht hid hstep hs ho hsessions =>
    constructor
    · intro id' x hx
      rw [held?_of_outcome hs ho hsessions] at hx
      split at hx
      · exact Option.some.inj hx ▸ ho.home (h.home id s hs)
      · exact h.home id' x hx
    · intro j t task' hj ht' r record htask
      rcases (getElem?_set_iff hi).1 hj with ⟨-, rfl⟩ | ⟨-, hj⟩
      · exact session_of_outcome ho (h.home id s hs) (SessionTable.id_of_held? hs)
          (fun r record htold => h.told i thread task hi ht r record (.inl htold)) ht' htask
      · exact h.told j t task' hj ht' r record htask
  | @answered i thread stage reason outcome state hi ht hstep hsessions =>
    refine ⟨fun id x hx => h.home id x (hsessions ▸ hx), ?_⟩
    intro j t task hj ht' r record htask
    rcases (getElem?_set_iff hi).1 hj with ⟨-, rfl⟩ | ⟨-, hj⟩
    · cases ht'
    · exact h.told j t task hj ht' r record htask
  | @aside _ state g hg hserial hsessions =>
    refine ⟨fun id x hx => ?_, h.told⟩
    obtain ⟨s, hs, hsame⟩ := held?_of_aside hg hsessions hx
    intro m hm
    rw [hsame.id]
    exact h.home id s hs m (hsame.messages ▸ hm)

/-- The event has nothing to do with the messages of the session `id`: none of them is abandoned, gets
its verdict or is handed over. -/
def Event.IsForeign (id : Uuid) (e : Event σ) : Prop :=
  e.abandonedOf? id = none ∧ (∀ r record, e.concluded? = some (r, record) → r.session ≠ id) ∧
    ∀ record, e.handed? = some record → record.session ≠ id

/-- Whatever has gone on from `T` to `T'`, the session `id` and the callbacks on it are as before, but
for its settings. -/
structure Beside (id : Uuid) (T T' : Traffic σ) : Prop where
  session : ∀ s, T.state.sessions.held? id = some s →
    ∃ s', T'.state.sessions.held? id = some s' ∧ s.SameCourse s'
  thread : ∀ (j : Nat) (t : Thread σ), t.session = some id →
    (T'.threads[j]? = some t ↔ T.threads[j]? = some t)
  length : T.threads.length ≤ T'.threads.length
  log : T'.log = T.log ∨ ∃ e : Event σ, e.IsForeign id ∧ T'.log = T.log ++ [e]

/-- Another callback has been taken, which is `Beside` the session. -/
theorem Beside.call {thread : Thread σ} (h : thread.session ≠ some id) :
    T.Beside id { T with threads := T.threads ++ [thread] } where
  session := fun s hs => ⟨s, hs, .refl s⟩
  thread := by
    intro j t hsession
    rw [getElem?_concat_iff]
    refine or_iff_left ?_
    rintro ⟨-, rfl⟩
    exact h hsession
  length := by simp
  log := .inl rfl

/-- A callback on another session has carried out a task, which is `Beside` the session. -/
theorem Beside.extend (hT : T.Sound) (hN : T.Named) {i : Nat} {thread : Thread σ} {task : Task σ}
    {p : Progress σ} {state : FilterState σ} (hi : T.threads[i]? = some thread)
    (ht : thread.progress.task? = some task) (hother : thread.session ≠ some id)
    (hheld : state.sessions.held? id = T.state.sessions.held? id)
    (hp : ∀ r record, p = .next (.concluded r record) → thread.session = some r.session) :
    T.Beside id (T.extend ⟨i, task, T.state, p, state⟩
      (T.threads.set i { thread with progress := p })) where
  session := fun s hs => ⟨s, hheld.trans hs, .refl s⟩
  thread := by
    intro j t hsession
    rw [getElem?_set_iff hi]
    constructor
    · rintro (⟨-, rfl⟩ | ⟨-, hj⟩)
      · exact absurd hsession hother
      · exact hj
    · intro hj
      refine .inr ⟨?_, hj⟩
      rintro rfl
      obtain rfl := Option.some.inj (hi.symm.trans hj)
      exact hother hsession
  length := by simp
  log := by
    have hid := hT.session i thread task hi ht
    refine .inr ⟨_, ⟨if_neg (hid ▸ hother), fun r record hc heq => ?_, fun record hh heq => ?_⟩, rfl⟩
    · exact hother (heq ▸ hp r record (Event.concluded?_eq_some.1 hc))
    · obtain ⟨r, rfl⟩ := Event.handed?_eq_some.1 hh
      rw [hN.told i thread _ hi ht r record (.inr rfl)] at heq
      exact hother (hid.symm.trans (congrArg some heq))

/-- A move that neither takes a callback on a session nor carries one out passes it by: what it leads to
is `Beside` the session. -/
theorem beside_of_moved (hT : T.Sound) (hN : T.Named) {m : Move σ} (hm : Moved f T m T')
    (hcall : ∀ c, m ≠ .call (some id) c)
    (hgo : ∀ (i : Nat) (thread : Thread σ) (task : Task σ), m = .go i →
      T.threads[i]? = some thread → thread.progress.task? = some task →
      thread.session ≠ some id) : T.Beside id T' := by
  cases hm with
  | @connected _ _ _ state x hid hposition hmessages hserial hsessions =>
    refine ⟨fun s hs => ⟨s, ?_, .refl s⟩, fun _ _ _ => .rfl, Nat.le_refl _, .inl rfl⟩
    have hne : x.id ≠ id := by
      rintro rfl
      exact hT.not_issued (hid ▸ SessionTable.mem_ids_of_held? hs)
    rw [hsessions, SessionTable.held?_insert (hid ▸ hT.not_issued), if_neg hne, hs]
  | @taken id' c hid =>
    refine .call ?_
    rintro ⟨⟩
    exact hcall c rfl
  | @replied session c reply hc =>
    refine .call ?_
    rintro rfl
    exact hcall c rfl
  | @unknown session c =>
    refine .call ?_
    rintro rfl
    exact hcall c rfl
  | @went i thread task p state id' s s' hi ht hid hstep hs ho hsessions =>
    -- the callback is on another session, and so is all that its task touches
    have hother := hgo i thread task rfl hi ht
    refine .extend hT hN hi ht hother ?_ fun r record hp => ?_
    · rw [held?_of_outcome hs ho hsessions, if_neg fun heq : id' = id => hother (heq ▸ hid)]
    · rw [hp] at ho
      exact hid.trans (ho.session_eq (SessionTable.id_of_held? hs) rfl).symm
  | @answered i thread stage reason outcome state hi ht hstep hsessions =>
    refine .extend hT hN hi ht (hgo i thread _ rfl hi ht) (by rw [hsessions]) ?_
    rintro r record ⟨⟩
  | aside g hg hserial hsessions =>
    refine ⟨fun s hs => ⟨g s, ?_, hg s⟩, fun _ _ _ => .rfl, Nat.le_refl _, .inl rfl⟩
    rw [SessionTable.held?_of_map (fun s => (hg s).id) hsessions, hs]
    rfl

theorem gone_run (f : Filter σ) (h : id ∈ T.state.sessions.gone) (moves : List (Move σ)) :
    id ∈ (T.run f moves).state.sessions.gone := by
  induction moves generalizing T with
  | nil => exact h
  | cons m rest ih => exact ih ((gone_move f T m).mem_iff.2 (List.mem_append_left _ h))

/-- A session that `find?` finds in the end could be found all the time. -/
theorem find?_of_run (f : Filter σ) (hT : T.Sound) {s s' : Session} {moves : List (Move σ)}
    (hs : T.state.sessions.held? id = some s)
    (hs' : (T.run f moves).state.sessions.find? id = some s') :
    T.state.sessions.find? id = some s := by
  cases hfind : T.state.sessions.find? id with
  | none =>
    have hgone : id ∈ T.state.sessions.gone :=
      (SessionTable.mem_gone_iff hT.distinct).2 ⟨SessionTable.mem_ids_of_held? hs, hfind⟩
    have hgone' := gone_run f hgone moves
    rw [((SessionTable.mem_gone_iff (sound_run f hT moves).distinct).1 hgone').2] at hs'
    cases hs'
  | some x =>
    rw [SessionTable.held?_of_find? hT.distinct hfind] at hs
    exact hs

theorem find?_of_move (f : Filter σ) (hT : T.Sound) {s s' : Session} {m : Move σ}
    (hs : T.state.sessions.held? id = some s)
    (hs' : (T.move f m).state.sessions.find? id = some s') :
    T.state.sessions.find? id = some s :=
  have hrun : (T.run f [m]).state.sessions.find? id = some s' := hs'
  find?_of_run f hT hs hrun

/-! ### Until the violation has been handled -/

/-- `MAIL FROM` without exactly one sender goes no further. -/
theorem change_of_senders {args : List String}
    (hargs : (SessionChange.senderArguments args).length ≠ 1) (sasl : Sasl) (message : Uuid)
    (now : Timestamp) (s : Session) :
    ∃ n, (Callback.envFrom args sasl).change message now s = (.error (.senderCount n), s) := by
  simp only [Callback.change, SessionChange.envFrom]
  rcases h : SessionChange.senderArguments args with _ | ⟨sender, _ | ⟨_, _⟩⟩
  · exact ⟨_, rfl⟩
  · rw [h] at hargs
    exact absurd rfl hargs
  · exact ⟨_, rfl⟩

/-- A callback `v` that is to fail a session, with nothing else under way on it. -/
structure Handling (id : Uuid) (args : List String) (sasl : Sasl) (v : Nat) (T : Traffic σ) :
    Prop where
  held : ∃ s, T.state.sessions.held? id = some s
  others : ∀ (j : Nat) (t : Thread σ), T.threads[j]? = some t → t.session = some id → j ≠ v →
    t.progress.task? = none
  violator : ∃ p, T.threads[v]? = some ⟨some id, .envFrom args sasl, p⟩ ∧
    ∀ s, T.state.sessions.find? id = some s →
      p = .next (.called id (.envFrom args sasl)) ∨
      (∃ n, p = .failed .envFrom (some id) (.senderCount n)) ∨
      (p.task? = none ∧ s.position = .failed)

/-- `MAIL FROM` without exactly one sender is refused for its arguments. -/
theorem step_senders (f : Filter σ) {args : List String} {sasl : Sasl} {st : FilterState σ}
    {s : Session} (hargs : (SessionChange.senderArguments args).length ≠ 1)
    (hs : st.sessions.held? id = some s) :
    ∃ n, (f.step st (.called id (.envFrom args sasl))).1
      = .failed .envFrom (some id) (.senderCount n) := by
  have hfresh : st.fresh.2.sessions.held? id = some s := hs
  obtain ⟨n, hchange⟩ := change_of_senders hargs sasl (Uuid.issued st.serial) st.clock s
  refine ⟨n, ?_⟩
  show (f.act id (.envFrom args sasl) st).1 = _
  rw [Filter.act_eq f id (by rintro ⟨⟩), Filter.locked_of_held hfresh, Change.andThen, hchange]
  rfl

/-- To be refused for its arguments is fatal to a session: the answer leaves it failed. -/
theorem step_senderCount (f : Filter σ) {st : FilterState σ} (hd : st.sessions.Distinct)
    {s s' : Session} {n : Nat} (hs : st.sessions.find? id = some s) {task : Task σ}
    (htask : task = .interrupted .envFrom (some id) (.failure (.senderCount n)))
    (hs' : (f.step st task).2.sessions.find? id = some s') :
    (f.step st task).1.task? = none ∧ s'.position = .failed := by
  subst htask
  have hanswer : f.step st (.interrupted .envFrom (some id) (.failure (.senderCount n)))
      = (.replied (.ofFailure s.isAllowListed (.senderCount n)),
          ({ st with metrics := st.metrics.noteFailure .envFrom true } :
            FilterState σ).update s.fail) := by
    simp only [Filter.step, Filter.answerInterruption, Filter.answerFailure, Option.bind_some, hs]
    rfl
  have hid : s.id = id := SessionTable.id_of_held? (SessionTable.held?_of_find? hd hs)
  rw [hanswer] at hs' ⊢
  change (st.sessions.update s.fail).find? id = some s' at hs'
  rw [SessionTable.find?_update, if_pos (show s.fail.id = id from hid), hs] at hs'
  obtain rfl := Option.some.inj hs'
  exact ⟨rfl, rfl⟩

theorem handling_go {args : List String} {sasl : Sasl} {v : Nat}
    (hargs : (SessionChange.senderArguments args).length ≠ 1) (hT : T.Sound)
    (h : T.Handling id args sasl v) {p : Progress σ} {task : Task σ}
    (hv : T.threads[v]? = some ⟨some id, .envFrom args sasl, p⟩) (ht : p.task? = some task) :
    (T.go f v).Handling id args sasl v := by
  obtain ⟨x, hx⟩ := h.held
  have hfound : ∀ s', (T.move f (.go v)).state.sessions.find? id = some s' →
      T.state.sessions.find? id = some x := fun s' => find?_of_move f hT hx
  change ∀ s', (T.go f v).state.sessions.find? id = some s' → _ at hfound
  rw [go_of_task hv ht] at hfound ⊢
  obtain ⟨hlt, -⟩ := List.getElem?_eq_some_iff.1 hv
  -- the session itself stays in the table, whatever the task does to it
  obtain ⟨x', ho, hsessions⟩ := f.outcome_step hT.distinct (hT.session v _ task hv ht) hx
  have hheld := held?_of_outcome hx ho hsessions id
  rw [if_pos rfl] at hheld
  refine ⟨⟨x', hheld⟩, fun j t hj hsession hne => ?_,
    (f.step T.state task).1, List.getElem?_set_self hlt, fun s' hs' => ?_⟩
  · rcases (getElem?_set_iff hv).1 hj with ⟨rfl, -⟩ | ⟨-, hj⟩
    · exact absurd rfl hne
    · exact h.others j t hj hsession hne
  · obtain ⟨p', hv', hcases⟩ := h.violator
    obtain rfl : p = p' := by
      rw [hv, Option.some.injEq, Thread.mk.injEq] at hv'
      exact hv'.2.2
    -- the violation is refused first, then answered, and then there is nothing left to do
    rcases hcases x (hfound s' hs') with rfl | ⟨n, rfl⟩ | ⟨hover, -⟩
    · cases ht
      exact .inr (.inl (step_senders f hargs hx))
    · cases ht
      exact .inr (.inr (step_senderCount f hT.distinct (hfound s' hs') rfl hs'))
    · rw [hover] at ht
      cases ht

/-- As long as no other callback on the session is taken, the violation is being handled: a move leaves
`Handling`. -/
theorem handling_move (f : Filter σ) {args : List String} {sasl : Sasl} {v : Nat}
    (hargs : (SessionChange.senderArguments args).length ≠ 1) (hT : T.Sound) (hN : T.Named)
    (h : T.Handling id args sasl v) {m : Move σ} (hm : ∀ c, m ≠ .call (some id) c) :
    (T.move f m).Handling id args sasl v := by
  obtain ⟨p, hv, hcases⟩ := h.violator
  obtain ⟨x, hx⟩ := h.held
  by_cases hgo : m = .go v ∧ p.task? ≠ none
  · obtain ⟨rfl, hpending⟩ := hgo
    obtain ⟨task, ht⟩ := Option.ne_none_iff_exists'.1 hpending
    exact handling_go hargs hT h hv ht
  · have hbeside : T.Beside id (T.move f m) := by
      refine beside_of_moved hT hN (moved_move f hT m) hm fun i thread task hi hthread ht hid => ?_
      by_cases heq : i = v
      · subst heq
        obtain rfl := Option.some.inj (hthread.symm.trans hv)
        exact hgo ⟨hi, by simp [ht]⟩
      · rw [h.others i thread hthread hid heq] at ht
        cases ht
    obtain ⟨x', hx', hsame⟩ := hbeside.session x hx
    refine ⟨⟨x', hx'⟩, fun j t hj hsession hne => ?_, p, (hbeside.thread v _ rfl).2 hv,
      fun s' hs' => ?_⟩
    · exact h.others j t ((hbeside.thread j t hsession).1 hj) hsession hne
    · have hT' := sound_of_moved hT (moved_move f hT m)
      obtain rfl : x' = s' := by
        rw [SessionTable.held?_of_find? hT'.distinct hs'] at hx'
        exact (Option.some.inj hx').symm
      rw [hsame.position]
      exact hcases x (find?_of_move f hT hx hs')

/-! ### After the violation -/

/-- A session that has been failed when the traffic stood at `T₁` and the session had these messages,
and the callbacks on it since. -/
structure Shut (id : Uuid) (listed : Bool) (T T₁ : Traffic σ) (messages : List Message) :
    Prop where
  client : (id, listed) ∈ T.state.sessions.clients
  course : ∃ s later, T.state.sessions.held? id = some s ∧ s.position = .failed ∧
    T.log = T₁.log ++ later ∧
    s.messages ++ (later.filterMap (Event.abandonedOf? id)).reverse = messages ∧
    ∀ e ∈ later, (∀ r record, e.concluded? = some (r, record) → r.session ≠ id) ∧
      ∀ record, e.handed? = some record → record.session ≠ id
  length : T₁.threads.length ≤ T.threads.length
  before : ∀ (j : Nat) (t : Thread σ), j < T₁.threads.length → T.threads[j]? = some t →
    t.session = some id → t.progress.task? = none
  brief : ∀ (j : Nat) (t : Thread σ) (task : Task σ), T.threads[j]? = some t →
    t.session = some id → t.progress.task? = some task → task.isBrief = true
  refuses : ∀ s, T.state.sessions.find? id = some s → ∀ (j : Nat) (t : Thread σ),
    T₁.threads.length ≤ j → T.threads[j]? = some t → t.session = some id →
    Refuses id listed t.callback t.progress

section

variable {T₁ : Traffic σ} {listed : Bool} {messages : List Message}

theorem Shut.beside (h : T.Shut id listed T₁ messages) (hb : T.Beside id T')
    (hlisted : (id, listed) ∈ T'.state.sessions.clients)
    (hfind : ∀ s s', T.state.sessions.held? id = some s →
      T'.state.sessions.find? id = some s' → T.state.sessions.find? id = some s) :
    T'.Shut id listed T₁ messages := by
  obtain ⟨s, later, hs, hfailed, hlog, hmessages, hlater⟩ := h.course
  obtain ⟨s', hs', hsame⟩ := hb.session s hs
  refine ⟨hlisted, ?_, Nat.le_trans h.length hb.length, fun j t hlt hj hsession => ?_,
    fun j t task hj hsession => ?_, fun x hx j t hle hj hsession => ?_⟩
  · rcases hb.log with hsamelog | ⟨e, ⟨habandoned, hconcluded, hhanded⟩, hone⟩
    · exact ⟨s', later, hs', hsame.position.trans hfailed, hsamelog.trans hlog,
        by rw [hsame.messages, hmessages], hlater⟩
    · refine ⟨s', later ++ [e], hs', hsame.position.trans hfailed, ?_, ?_, fun e' he' => ?_⟩
      · rw [hone, hlog, List.append_assoc]
      · rw [List.filterMap_append, List.filterMap_cons_none habandoned, List.filterMap_nil,
          List.append_nil, hsame.messages, hmessages]
      · rcases List.mem_append.1 he' with he' | he'
        · exact hlater e' he'
        · rw [List.mem_singleton.1 he']
          exact ⟨hconcluded, hhanded⟩
  · exact h.before j t hlt ((hb.thread j t hsession).1 hj) hsession
  · exact h.brief j t task ((hb.thread j t hsession).1 hj) hsession
  · exact h.refuses s (hfind s x hs hx) j t hle ((hb.thread j t hsession).1 hj) hsession

theorem Shut.call (h : T.Shut id listed T₁ messages) (hd : T.state.sessions.Distinct)
    (c : Callback) : (T.move f (.call (some id) c)).Shut id listed T₁ messages := by
  refine ⟨h.client, h.course, ?_, fun j t hlt hj hsession => ?_, fun j t task hj hsession ht => ?_,
    fun s hs j t hle hj hsession => ?_⟩
  · show T₁.threads.length ≤ (T.threads ++ _).length
    rw [List.length_append]
    exact Nat.le_add_right_of_le h.length
  · rcases getElem?_concat_iff.1 hj with hj | ⟨rfl, -⟩
    · exact h.before j t hlt hj hsession
    · exact absurd h.length (by omega)
  · rcases getElem?_concat_iff.1 hj with hj | ⟨-, rfl⟩
    · exact h.brief j t task hj hsession ht
    · unfold Filter.call at ht
      dsimp only at ht
      split at ht <;> cases ht <;> rfl
  · rcases getElem?_concat_iff.1 hj with hj | ⟨-, rfl⟩
    · exact h.refuses s hs j t hle hj hsession
    · rw [← SessionTable.isAllowListed_of_find? hd h.client hs]
      exact refuses_call hs c

theorem Shut.go (h : T.Shut id listed T₁ messages) (hT : T.Sound) {i : Nat} {thread : Thread σ}
    {task : Task σ} (hi : T.threads[i]? = some thread) (hid : thread.session = some id)
    (ht : thread.progress.task? = some task) : (T.go f i).Shut id listed T₁ messages := by
  obtain ⟨s, later, hs, hfailed, hlog, hmessages, hlater⟩ := h.course
  have hlisted := clients_move f hT h.client (.go i)
  have hfound : ∀ s', (T.move f (.go i)).state.sessions.find? id = some s' →
      T.state.sessions.find? id = some s := fun s' => find?_of_move f hT hs
  change _ ∈ (T.go f i).state.sessions.clients at hlisted
  change ∀ s', (T.go f i).state.sessions.find? id = some s' → _ at hfound
  rw [go_of_task hi ht] at hlisted hfound ⊢
  -- every task of a callback on the session is a brief one, and such a task leaves it shut
  have hbrief := h.brief i thread task hi hid ht
  obtain ⟨⟨s', hs', hfailed', hdropped⟩, hnext, hconcluded⟩ :=
    shut_step f hT.distinct hs hbrief ((hT.session i thread task hi ht).trans hid) hfailed
      ⟨i, task, T.state, (f.step T.state task).1, (f.step T.state task).2⟩ rfl rfl
  refine ⟨hlisted, ⟨s', later ++
      [⟨i, task, T.state, (f.step T.state task).1, (f.step T.state task).2⟩],
      hs', hfailed', ?_, ?_, fun e he => ?_⟩, ?_,
    fun j t hlt hj hsession => ?_, fun j t task' hj hsession ht' => ?_,
    fun x hx j t hle hj hsession => ?_⟩
  · show T.log ++ _ = _
    rw [hlog, List.append_assoc]
  · rw [filterMap_concat, List.reverse_append, ← List.append_assoc]
    rw [show ∀ o : Option Message, o.toList.reverse = o.toList from fun o => by cases o <;> rfl]
    rw [hdropped, hmessages]
  · rcases List.mem_append.1 he with he | he
    · exact hlater e he
    · rw [List.mem_singleton.1 he]
      refine ⟨fun r record hc => absurd (Event.concluded?_eq_some.1 hc) (hconcluded r record),
        fun record hh => ?_⟩
      -- a record is handed over by a task that is not brief
      obtain ⟨r, htold⟩ := Event.handed?_eq_some.1 hh
      obtain rfl : task = .told r record := htold
      cases hbrief
  · show T₁.threads.length ≤ (T.threads.set i _).length
    rw [List.length_set]
    exact h.length
  · rcases (getElem?_set_iff hi).1 hj with ⟨rfl, -⟩ | ⟨-, hj⟩
    · -- what had been taken before the violation is over
      rw [h.before i thread hlt hi hid] at ht
      cases ht
    · exact h.before j t hlt hj hsession
  · rcases (getElem?_set_iff hi).1 hj with ⟨-, rfl⟩ | ⟨-, hj⟩
    · exact hnext task' ht'
    · exact h.brief j t task' hj hsession ht'
  · have hfind := hfound x hx
    rcases (getElem?_set_iff hi).1 hj with ⟨rfl, rfl⟩ | ⟨-, hj⟩
    · have hrefuses := h.refuses s hfind i thread hle hi hid
      have hsame := SessionTable.isAllowListed_of_find? hT.distinct h.client hfind
      rw [← hsame] at hrefuses ⊢
      exact refuses_step f hT.distinct hfind hfailed hrefuses ht
    · exact h.refuses s hfind j t hle hj hsession

/-- Every move leaves the session `Shut`. -/
theorem shut_move (f : Filter σ) (hT : T.Sound) (hN : T.Named) (h : T.Shut id listed T₁ messages)
    (m : Move σ) : (T.move f m).Shut id listed T₁ messages := by
  by_cases hcall : ∃ c, m = .call (some id) c
  · obtain ⟨c, rfl⟩ := hcall
    exact h.call hT.distinct c
  by_cases hgo : ∃ i thread task, m = .go i ∧ T.threads[i]? = some thread ∧
      thread.progress.task? = some task ∧ thread.session = some id
  · obtain ⟨i, thread, task, rfl, hi, ht, hid⟩ := hgo
    exact h.go hT hi hid ht
  · have hbeside : T.Beside id (T.move f m) :=
      beside_of_moved hT hN (moved_move f hT m) (fun c hc => hcall ⟨c, hc⟩)
        fun i thread task hm hi ht hid => hgo ⟨i, thread, task, hm, hi, ht, hid⟩
    exact h.beside hbeside (clients_move f hT h.client m)
      fun s s' hs hs' => find?_of_move f hT hs hs'

end

/-! ### Runs -/

theorem named_run (f : Filter σ) (hT : T.Sound) (hN : T.Named) (moves : List (Move σ)) :
    (T.run f moves).Named :=
  run_induction (fun _ _ _ hT hN hm => named_of_moved hT hN hm) hT hN moves

theorem handling_run (f : Filter σ) {args : List String} {sasl : Sasl} {v : Nat}
    (hargs : (SessionChange.senderArguments args).length ≠ 1) (hT : T.Sound) (hN : T.Named)
    (h : T.Handling id args sasl v) {moves : List (Move σ)}
    (hmoves : ∀ m ∈ moves, ∀ c, m ≠ .call (some id) c) :
    (T.run f moves).Handling id args sasl v := by
  induction moves generalizing T with
  | nil => exact h
  | cons m rest ih =>
    obtain ⟨hm, hrest⟩ := List.forall_mem_cons.1 hmoves
    have hmoved := moved_move f hT m
    exact ih (sound_of_moved hT hmoved) (named_of_moved hT hN hmoved)
      (handling_move f hargs hT hN h hm) hrest

theorem shut_run (f : Filter σ) {T₁ : Traffic σ} {listed : Bool} {messages : List Message}
    (hT : T.Sound) (hN : T.Named) (h : T.Shut id listed T₁ messages) (moves : List (Move σ)) :
    (T.run f moves).Shut id listed T₁ messages := by
  induction moves generalizing T with
  | nil => exact h
  | cons m rest ih =>
    have hmoved := moved_move f hT m
    exact ih (sound_of_moved hT hmoved) (named_of_moved hT hN hmoved) (shut_move f hT hN h m)

/-- What has become of a session since the traffic stood at `T₁`, when the session was `s₁`. -/
structure Ended (f : Filter σ) (id : Uuid) (T T₁ : Traffic σ) (s s₁ : Session) : Prop where
  /-- The session has failed. -/
  failed : s.position = .failed
  /-- No verdict has been recorded on a message of the session and no record of one handed over; its
  messages are those that there were, up to the ones abandoned, each of which was open. -/
  course : ∃ later, T.log = T₁.log ++ later ∧
    s.messages ++ (later.filterMap (Event.abandonedOf? id)).reverse = s₁.messages ∧
    ∀ e ∈ later, (∀ r record, e.concluded? = some (r, record) → r.session ≠ id) ∧
      ∀ record, e.handed? = some record → record.session ≠ id
  /-- A callback taken since that is over has been refused, without changes to the headers. -/
  replies : ∀ (j : Nat) (thread : Thread σ) (outcome : Except Panic Answer),
    T₁.threads.length ≤ j → T.threads[j]? = some thread → thread.session = some id →
    thread.progress = .done outcome →
    outcome = .ok { reply := thread.callback.refusal s.isAllowListed, mutations := [] }
  /-- A callback that is left to itself comes to its end. -/
  ends : ∀ (j : Nat) (thread : Thread σ) (task : Task σ), T.threads[j]? = some thread →
    thread.progress.task? = some task →
    ∃ n outcome, (T.run f (List.replicate n (.go j))).threads[j]?
      = some { thread with progress := .done outcome }

/-- A violation that has been handled leaves the session `Shut`. -/
theorem Handling.shut {args : List String} {sasl : Sasl} {v : Nat} (h : T.Handling id args sasl v)
    {outcome : Except Panic Answer}
    (hover : T.threads[v]? = some ⟨some id, .envFrom args sasl, .done outcome⟩) {s : Session}
    (hs : T.state.sessions.find? id = some s) (hd : T.state.sessions.Distinct) :
    T.Shut id s.isAllowListed T s.messages := by
  have hidle : ∀ (j : Nat) (t : Thread σ), T.threads[j]? = some t → t.session = some id →
      t.progress.task? = none := by
    intro j t hj hsession
    by_cases hne : j = v
    · subst hne
      obtain rfl := Option.some.inj (hover.symm.trans hj)
      rfl
    · exact h.others j t hj hsession hne
  obtain ⟨p, hv, hcases⟩ := h.violator
  obtain rfl : p = .done outcome := by
    rw [hover, Option.some.injEq, Thread.mk.injEq] at hv
    exact hv.2.2.symm
  have hfailed : s.position = .failed := by
    rcases hcases s hs with hp | ⟨n, hp⟩ | ⟨-, hfailed⟩
    · cases hp
    · cases hp
    · exact hfailed
  refine ⟨SessionTable.mem_clients_of_find? hs rfl,
    ⟨s, [], SessionTable.held?_of_find? hd hs, hfailed, (List.append_nil _).symm,
      List.append_nil _, by rintro e ⟨⟩⟩,
    Nat.le_refl _, fun j t _ => hidle j t, fun j t task hj hsession ht => ?_,
    fun _ _ j t hle hj => ?_⟩
  · rw [hidle j t hj hsession] at ht
    cases ht
  · have hlt := (List.getElem?_eq_some_iff.1 hj).1
    omega

/-- **A violation is final.** `MAIL FROM` without exactly one sender is taken for a session on which
nothing else is under way, and the next callback on the session is taken only when it is over. Whatever
happens then, in whatever order: as long as the session can be found it is failed, none of its messages
gets a verdict and no record of one is handed over, the list of its messages loses no more than open
messages to callbacks that abandon them, and the callbacks on it are refused. -/
theorem violation_final (f : Filter σ) (st : FilterState σ) (before : List (Move σ)) {id : Uuid}
    {s₀ : Session} (hfind : ((start st).run f before).state.sessions.find? id = some s₀)
    (hidle : ((start st).run f before).IsIdle id) {args : List String} {sasl : Sasl}
    (hargs : (SessionChange.senderArguments args).length ≠ 1) {between : List (Move σ)}
    (hbetween : ∀ m ∈ between, ∀ c, m ≠ .call (some id) c) {outcome : Except Panic Answer}
    (hover : (((start st).run f before).run f
      (.call (some id) (.envFrom args sasl) :: between)).threads[
        ((start st).run f before).threads.length]?
        = some ⟨some id, .envFrom args sasl, .done outcome⟩)
    (rest : List (Move σ)) {s : Session}
    (hs : ((((start st).run f before).run f
      (.call (some id) (.envFrom args sasl) :: between)).run f rest).state.sessions.find? id
        = some s) :
    ∃ s₁, (((start st).run f before).run f
        (.call (some id) (.envFrom args sasl) :: between)).state.sessions.find? id = some s₁ ∧
      ((((start st).run f before).run f
        (.call (some id) (.envFrom args sasl) :: between)).run f rest).Ended f id
        (((start st).run f before).run f (.call (some id) (.envFrom args sasl) :: between)) s s₁ := by
  have hT₀ : ((start st).run f before).Sound := sound_run f (sound_start st) before
  have hN₀ := named_run f (sound_start st) (named_start st) before
  generalize (start st).run f before = T₀ at hfind hidle hover hs hT₀ hN₀ ⊢
  have hx := SessionTable.held?_of_find? hT₀.distinct hfind
  -- the callback has been taken, and nothing else on the session is under way
  have htaken : (T₀.move f (.call (some id) (.envFrom args sasl))).Handling id args sasl
      T₀.threads.length := by
    refine ⟨⟨s₀, hx⟩, fun j t hj hsession hne => ?_, _, List.getElem?_concat_length,
      fun _ _ => .inl (Filter.call_of_find? hfind (by rintro ⟨⟩))⟩
    rcases getElem?_concat_iff.1 hj with hj | ⟨heq, -⟩
    · exact hidle t (List.mem_of_getElem? hj) hsession
    · exact absurd heq hne
  have hmoved := moved_move f hT₀ (.call (some id) (.envFrom args sasl))
  have hhandled : (T₀.run f (.call (some id) (.envFrom args sasl) :: between)).Handling id args sasl
      T₀.threads.length :=
    handling_run f hargs (sound_of_moved hT₀ hmoved) (named_of_moved hT₀ hN₀ hmoved) htaken hbetween
  have hT₁ := sound_run f hT₀ (.call (some id) (.envFrom args sasl) :: between)
  have hN₁ := named_run f hT₀ hN₀ (.call (some id) (.envFrom args sasl) :: between)
  generalize T₀.run f (.call (some id) (.envFrom args sasl) :: between) = T₁
    at hover hs hhandled hT₁ hN₁ ⊢
  obtain ⟨s₁, hs₁⟩ := hhandled.held
  have hfind₁ := find?_of_run f hT₁ hs₁ hs
  have hshut := shut_run f hT₁ hN₁ (hhandled.shut hover hfind₁ hT₁.distinct) rest
  have hT := sound_run f hT₁ rest
  obtain ⟨x, later, hx, hfailed, hcourse⟩ := hshut.course
  obtain rfl : s = x := by
    rw [SessionTable.held?_of_find? hT.distinct hs] at hx
    exact Option.some.inj hx
  refine ⟨s₁, hfind₁, hfailed, ⟨later, hcourse⟩, fun j thread outcome hle hj hsession hp => ?_,
    fun j thread task hj ht => ends_of_task f ⟨hj, rfl⟩ ht⟩
  have hrefuses := hshut.refuses s hs j thread hle hj hsession
  rw [hp] at hrefuses
  cases hrefuses
  rw [SessionTable.isAllowListed_of_find? hT.distinct hshut.client hs]

/-- A client has begun a message, and then names no sender for the next one. -/
theorem violation_final_nobody :
    let T₀ := (start (.blank {})).run .bare [.connect none none none,
      .call (some (Uuid.issued 0)) (.envFrom ["<a@example.org>"] {}), .go 0]
    let T₁ := T₀.run .bare (.call (some (Uuid.issued 0)) (.envFrom [] {}) :: [.go 1, .go 1])
    let T₂ := T₁.run .bare [.call (some (Uuid.issued 0)) .abort, .go 2,
      .call (some (Uuid.issued 0)) (.helo "mx.example.org" {}), .go 3, .go 3]
    ∃ s₁ s, T₁.state.sessions.find? (Uuid.issued 0) = some s₁ ∧
      T₂.state.sessions.find? (Uuid.issued 0) = some s ∧
      T₂.Ended .bare (Uuid.issued 0) T₁ s s₁ := by
  intro T₀ T₁ T₂
  have hfound₀ : (T₀.state.sessions.find? (Uuid.issued 0)).isSome = true := by decide +kernel
  have hfound : (T₂.state.sessions.find? (Uuid.issued 0)).isSome = true := by decide +kernel
  obtain ⟨s₀, hs₀⟩ := Option.isSome_iff_exists.1 hfound₀
  obtain ⟨s, hs⟩ := Option.isSome_iff_exists.1 hfound
  have hidle : T₀.IsIdle (Uuid.issued 0) := by
    unfold IsIdle
    decide +kernel
  have hbetween : ∀ m ∈ ([.go 1, .go 1] : List (Move Unit)), ∀ c,
      m ≠ .call (some (Uuid.issued 0)) c := by
    rintro m (_ | ⟨_, _ | ⟨_, ⟨⟩⟩⟩) c <;> rintro ⟨⟩
  obtain ⟨outcome, hover⟩ : ∃ outcome, T₁.threads[T₀.threads.length]?
      = some ⟨some (Uuid.issued 0), .envFrom [] {}, .done outcome⟩ :=
    ⟨_, by with_unfolding_all rfl⟩
  obtain ⟨s₁, hs₁, hended⟩ := violation_final .bare (.blank {}) _ hs₀ hidle (by decide) hbetween
    hover _ hs
  exact ⟨s₁, s, hs₁, hs, hended⟩

end Traffic

end MailFilter
