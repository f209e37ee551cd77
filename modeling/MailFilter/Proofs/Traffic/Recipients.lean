/-
The recipients of a message against those that the client was told are accepted.

With one callback at a time on a session, and none that is out of place, a recipient is told to be
accepted by the second step of `RCPT TO`, which adds it to the message; or by the answer to a panic,
which tells a client on the allow list to go on and adds nothing.

* `pursues_step`: how `RCPT TO` goes on in a session that takes it;
* `grants_extend`: only the last callback of a session adds to the recipients told to be accepted;
* `booked_run`: the open message has those of them whose callback has not panicked;
* `recipients_told_iff`: when the message has all that the client was told are accepted;
* `recipient_missing`: a recipient that the message has not.
-/
import MailFilter.Proofs.Traffic.AllowList
import MailFilter.Proofs.Traffic.Sequential

namespace MailFilter

variable {σ : Type}

/-! ### What the client is told -/

/-- The recipient of `RCPT TO`. -/
def Callback.recipient? : Callback → Option Address
  | envRcpt (arg :: _) => some (Address.ofArgument arg)
  | _ => none

/-- The callback is over with the reply to go on. -/
def Progress.proceeds : Progress σ → Bool
  | done (.ok answer) => answer.reply = .proceed
  | _ => false

namespace Task

/-- The recipient that the task adds to the open message if it ends with the reply to go on, as
`proceeds` tells of `p`. -/
def adds? (task : Task σ) (p : Progress σ) : Option Address :=
  match task with
  | gated _ _ recipient _ => if p.proceeds then some recipient else none
  | _ => none

/-- A task that the callback `c` may come to if its session takes `RCPT TO`. -/
def Pursues (c : Callback) : Task σ → Prop
  | called _ c' => c' = c
  | asking _ _ recipient | gating _ _ recipient _ _ _ | gated _ _ recipient _ =>
    c.recipient? = some recipient
  | interrupted _ _ (.panic _) => True
  | complete .. | judging .. | ruled _ | concluded .. | told .. | interrupted _ _ (.failure _) =>
    c.stage ≠ .envRcpt

end Task

theorem Callback.recipient?_eq_none {c : Callback} (h : c.stage ≠ .envRcpt) :
    c.recipient? = none := by
  cases c with
  | envRcpt args => exact absurd rfl h
  | _ => rfl

/-! ### The open message -/

/-- A message that is open after a callback was open before, with the same recipients, or the callback has
begun it. -/
theorem Callback.Effect.current?_or_begun {c : Callback} {message : Uuid} {now : Timestamp}
    {s s' : Session} {result : Except Failure Unit} (h : c.Effect message now s result s')
    (hs : s.Settled) {m' : Message} (hm' : s'.current? = some m') :
    (∃ m, s.current? = some m ∧ m'.id = m.id ∧ m'.recipients = m.recipients) ∨
    (c.stage = .envFrom ∧ result = .ok () ∧ m'.id = message ∧ m'.recipients = []) := by
  cases h with
  | refused _ _ | greeted _ _ | missed _ _ _ => exact .inl ⟨m', hm', rfl, rfl⟩
  | begun hstage _ =>
    rw [Session.current?_eq_some, List.getLast?_concat, Option.some.injEq] at hm'
    rw [← hm'.1]
    exact .inr ⟨hstage, rfl, rfl, rfl⟩
  | @touched position connection m m₁ _ _ hm _ hsame =>
    have hopen := hsame.verdict.trans (Session.verdict_of_current? hm)
    rw [Session.current?_replaceLast _ hopen, Option.some.injEq] at hm'
    subst hm'
    exact .inl ⟨m, hm, hsame.id, hsame.recipients⟩
  | abandoned _ =>
    -- all that is left has a verdict
    unfold Session.abort at hm'
    cases hm : s.current? with
    | none =>
      rw [hm] at hm'
      have hnone : s.current? = some m' := hm'
      rw [hm] at hnone
      cases hnone
    | some m =>
      rw [hm] at hm'
      have hmem : m' ∈ s.messages.dropLast := Session.mem_of_current? hm'
      have hfinal := hs m' hmem
      rw [(Session.current?_eq_some.1 hm').2] at hfinal
      cases hfinal

/-- A message that is open after a task was open before, with what the task `adds?` to it; or it has just
been begun. -/
theorem Task.Outcome.current?_or_begun {f : Filter σ} {st : FilterState σ} {id : Uuid}
    {s s' : Session} {task : Task σ} {p : Progress σ} (h : task.Outcome f st id s p s')
    (hs : s.Settled) {m' : Message} (hm' : s'.current? = some m') :
    (∃ m, s.current? = some m ∧ m'.id = m.id ∧
      m'.recipients = m.recipients ++ (task.adds? p).toList) ∨
    ((∃ args sasl, task = .called id (.envFrom args sasl)) ∧ p = .replied .proceed ∧
      m'.id = Uuid.issued st.serial ∧ m'.recipients = []) := by
  have hsame : ∀ {m : Message} {p : Progress σ}, s'.current? = some m → task.adds? p = none →
      m'.recipients = m'.recipients ++ (task.adds? p).toList := by
    intro m p _ hnone
    rw [hnone, Option.toList_none, List.append_nil]
  cases h with
  | failed _ he =>
    rcases he.current?_or_begun hs hm' with ⟨m, hm, hid, hkept⟩ | ⟨-, hok, -⟩
    · exact .inl ⟨m, hm, hid, hkept.trans (List.append_nil _).symm⟩
    · cases hok
  | @followed c _ _ he =>
    rcases he.current?_or_begun hs hm' with ⟨m, hm, hid, hkept⟩ | ⟨hstage, -, hid, hnil⟩
    · exact .inl ⟨m, hm, hid, hkept.trans (List.append_nil _).symm⟩
    · cases c with
      | envFrom args sasl => exact .inr ⟨⟨args, sasl, rfl⟩, rfl, hid, hnil⟩
      | _ => cases hstage
  | @accepted connection recipient answer m hm =>
    have hopen := Session.verdict_of_current? hm
    rw [Session.current?_replaceLast s (by exact hopen), Option.some.injEq] at hm'
    subst hm'
    exact .inl ⟨m, hm, rfl, rfl⟩
  | @refused connection recipient answer reply hr =>
    refine .inl ⟨m', hm', rfl, hsame hm' ?_⟩
    simp [adds?, Progress.proceeds, Progress.replied, hr]
  | concluded _ _ _ _ =>
    rw [Session.current?_replaceLast_finalized s (by simp)] at hm'
    cases hm'
  | decided _ hq | panicked _ hq | asked _ hq =>
    refine .inl ⟨m', hm', rfl, hsame hm' ?_⟩
    cases task with
    | asking _ _ _ | gating _ _ _ _ _ _ => rfl
    | _ => cases hq
  | awaited _ hq _ _ | judged _ hq _ =>
    refine .inl ⟨m', hm', rfl, hsame hm' ?_⟩
    cases task with
    | complete _ _ _ | judging _ _ _ _ => rfl
    | _ => cases hq
  | closed | missed _ | lost _ _ | noted _ | handed _ | answered | ended _ =>
    exact .inl ⟨m', hm', rfl, hsame hm' rfl⟩

/-! ### One step of `RCPT TO` -/

namespace Filter

variable {f : Filter σ} {st st' : FilterState σ} {id : Uuid} {s s' : Session}

/-- A callback that `touches` the open message succeeds if its session takes it: it goes on with
`follow`. -/
theorem act_of_touches (hs : st.sessions.held? id = some s) {c : Callback} (hc : c.touches = true)
    (hp : (s.position.next c.stage).isSome = true) {m : Message} (hm : s.current? = some m) :
    ∃ s', (act f id c st).1 = follow s' c := by
  have hclose : c ≠ .close := by
    rintro rfl
    cases hc
  have hs' : st.fresh.2.sessions.held? id = some s := hs
  rcases s.advance_cases c.stage with ⟨position, -, ha⟩ | ⟨e, he, ha⟩
  · obtain ⟨connection, h⟩ := Callback.change_of_advance (Uuid.issued st.serial) st.clock hc ha
    have hm' : ({ s with position, connection } : Session).current? = some m := hm
    obtain ⟨m', htouch, -⟩ := c.touch_eq s.config.hostname (Session.verdict_of_current? hm)
    have hchange : c.change (Uuid.issued st.serial) st.clock s
        = (.ok (), ({ s with position, connection } : Session).replaceLast m') := by
      rw [h, SessionChange.changeCurrent, hm']
      simp only [htouch]
    rw [act_eq f id hclose, locked_of_held hs', Change.andThen, hchange]
    exact ⟨_, rfl⟩
  · -- a stage that leads on is not refused
    obtain ⟨position, hposition⟩ := Option.isSome_iff_exists.1 hp
    have hfailed : s.position ≠ .failed := by
      intro hfailed
      rw [hfailed] at hposition
      cases hposition
    rw [Session.advance, if_neg hfailed, hposition] at ha
    cases ha

/-- A callback of another stage never comes to put a recipient to the checkers: what follows is a task
that `Pursues` it. -/
theorem pursues_of_other {c : Callback} {task task' : Task σ} {p : Progress σ}
    (hstage : c.stage ≠ .envRcpt) (ho : task.Outcome f st id s p s') (h : task.Pursues c)
    (hp : p.task? = some task') : task'.Pursues c ∧ ∀ i c', task' ≠ .called i c' := by
  have hnone : ∀ recipient, c.recipient? ≠ some recipient := by
    intro recipient
    rw [Callback.recipient?_eq_none hstage]
    rintro ⟨⟩
  -- a callback of another stage has no recipient to put to anybody
  have hunasked : ∀ connection recipient, task.question? ≠ some (connection, recipient) := by
    intro connection recipient hq
    cases task with
    | asking _ _ _ | gating _ _ _ _ _ _ => exact hnone _ h
    | _ => cases hq
  cases ho with
  | failed _ _ =>
    cases hp
    obtain rfl : _ = c := h
    exact ⟨hstage, by rintro i c' ⟨⟩⟩
  | followed _ _ =>
    obtain rfl : _ = c := h
    unfold follow at hp
    split at hp
    · exact absurd rfl hstage
    · split at hp <;> (cases hp; exact ⟨hstage, by rintro i c' ⟨⟩⟩)
    · cases hp
  | decided _ hq | panicked _ hq | asked _ hq => exact absurd hq (hunasked _ _)
  | missed _ => exact absurd h (hnone _)
  | awaited _ _ _ _ | judged _ _ _ | concluded _ _ _ _ | lost _ _ | noted _ =>
    cases hp
    exact ⟨hstage, by rintro i c' ⟨⟩⟩
  | closed | refused _ | accepted _ | handed _ | answered | ended _ => cases hp

/-- A callback for `RCPT TO` that the position permits finds a message open, and its recipient is put to
the checkers next; without arguments it is refused at once. -/
theorem pursues_called {args : List String} {p : Progress σ}
    (hs : st.sessions.held? id = some s) (hcoherent : s.Coherent)
    (hposition : (s.position.next .envRcpt).isSome = true)
    (hstep : f.step st (.called id (.envRcpt args)) = (p, st')) :
    (∀ task', p.task? = some task' →
        task'.Pursues (.envRcpt args) ∧ ∀ i c', task' ≠ .called i c') ∧
      (if p.proceeds = true then (Callback.envRcpt args).recipient? else none) = none := by
  obtain ⟨position, hnext⟩ := Option.isSome_iff_exists.1 hposition
  have hin := (Position.inMessage_of_next hnext (.inl rfl)).1
  obtain ⟨m, hm⟩ := Option.isSome_iff_exists.1
    ((Callback.Effect.isSome_of_next hcoherent hnext).1 hin)
  obtain ⟨s₁, hact⟩ := act_of_touches (f := f) hs (c := .envRcpt args) rfl hposition hm
  obtain rfl : p = follow s₁ (.envRcpt args) := by
    rw [← hact]
    exact (congrArg Prod.fst hstep).symm
  cases args with
  | nil => exact ⟨by rintro task' ⟨⟩, rfl⟩
  | cons arg rest =>
    refine ⟨?_, rfl⟩
    rintro task' ⟨⟩
    exact ⟨rfl, by rintro i' c ⟨⟩⟩

/-- How a callback goes on in a session that takes `RCPT TO`: until it panics, the client is told that a
recipient is accepted just if the task `adds?` it to the open message. -/
theorem pursues_step {c : Callback} {task : Task σ} {p : Progress σ}
    (hs : st.sessions.held? id = some s) (hid : task.session? = some id)
    (ho : task.Outcome f st id s p s') (hstep : f.step st task = (p, st')) (he : task.Expects s)
    (h : task.Pursues c)
    (hpermit : task = .called id c → c.stage = .envRcpt →
      (s.position.next .envRcpt).isSome = true) :
    (∀ task', p.task? = some task' → task'.Pursues c ∧ ∀ i c', task' ≠ .called i c') ∧
      (task.isPanic = false →
        (if p.proceeds = true then c.recipient? else none) = task.adds? p) := by
  by_cases hstage : c.stage = .envRcpt
  · cases task with
    | called i c' =>
      obtain rfl : c' = c := h
      obtain rfl : i = id := Option.some.inj hid
      obtain ⟨args, rfl⟩ : ∃ args, c' = .envRcpt args := by
        cases c' with
        | envRcpt args => exact ⟨args, rfl⟩
        | _ => cases hstage
      obtain ⟨hnext, hadds⟩ := pursues_called hs he (hpermit rfl hstage) hstep
      exact ⟨hnext, fun _ => hadds⟩
    | asking i connection recipient | gating i connection recipient outcome deferred rest =>
      cases ho with
      | decided _ hq | asked _ hq =>
        cases hq
        refine ⟨?_, fun _ => rfl⟩
        rintro task' ⟨⟩
        exact ⟨h, by rintro i' c ⟨⟩⟩
      | panicked _ hq =>
        refine ⟨?_, fun _ => rfl⟩
        rintro task' ⟨⟩
        exact ⟨trivial, by rintro i' c ⟨⟩⟩
      | awaited _ hq _ _ | judged _ hq _ => cases hq
    | gated i connection recipient answer =>
      have hrecipient : c.recipient? = some recipient := h
      refine ⟨fun task' hp => ?_, fun _ => by rw [hrecipient]; rfl⟩
      cases ho with
      | refused _ | accepted _ => cases hp
      | missed hm =>
        have hopen := he.2
        rw [hm] at hopen
        cases hopen
      | decided _ hq | panicked _ hq | asked _ hq | awaited _ hq _ _ | judged _ hq _ => cases hq
    | interrupted stage i reason =>
      obtain ⟨outcome, hdone⟩ := done_of_answerInterruption stage i st reason
      obtain rfl : p = .done outcome := by
        rw [← hdone]
        exact (congrArg Prod.fst hstep).symm
      refine ⟨by rintro task' ⟨⟩, fun hpanic => ?_⟩
      cases reason with
      | failure e => exact absurd hstage h
      | panic _ => cases hpanic
    | complete i config ctx | judging i config ctx j | ruled r | concluded r record
    | told r record => exact absurd hstage h
  · refine ⟨fun task' hp => pursues_of_other hstage ho h hp, fun _ => ?_⟩
    rw [Callback.recipient?_eq_none hstage, ite_self]
    cases task with
    | gated i connection recipient answer =>
      have hrecipient : c.recipient? = some recipient := h
      rw [Callback.recipient?_eq_none hstage] at hrecipient
      cases hrecipient
    | _ => rfl

/-- After a panic the client is told to go on only if it is on the allow list, by the `clients` of the
sessions. -/
theorem listed_of_proceeds {stage : Stage} {reason : Interruption} {p : Progress σ}
    (h : (f.step st (.interrupted stage (some id) reason)).1 = p) (hp : p.proceeds = true) :
    (id, true) ∈ st.sessions.clients := by
  -- both kinds of interruption are answered as failures in the end
  have hfailure : ∀ (e : Failure) (st₁ : FilterState σ), st₁.sessions = st.sessions →
      (answerFailure stage (some id) e st₁).1 = p → (id, true) ∈ st.sessions.clients := by
    intro e st₁ hsessions hanswer
    rw [answerFailure] at hanswer
    dsimp only [Option.bind_some] at hanswer
    rw [hsessions] at hanswer
    cases hfind : st.sessions.find? id with
    | none =>
      rw [hfind] at hanswer
      subst hanswer
      cases e <;> simp [Progress.proceeds, Progress.replied, Reply.ofFailure] at hp
    | some s =>
      rw [hfind] at hanswer
      subst hanswer
      refine SessionTable.mem_clients_of_find? hfind ?_
      by_contra hlisted
      rw [Bool.not_eq_true] at hlisted
      cases e <;> simp [Progress.proceeds, Progress.replied, Reply.ofFailure, hlisted] at hp
  cases reason with
  | failure e => exact hfailure e st rfl h
  | panic panic =>
    rw [step, answerInterruption] at h
    dsimp only at h
    split at h
    · subst h
      cases hp
    · exact hfailure _ { st with metrics := st.metrics.notePanic } rfl h

end Filter

namespace Traffic

/-! ### Recipients told to be accepted -/

/-- The recipient that the client was told is accepted, if the callback is an `RCPT TO` that is over
with this reply. -/
def Thread.granted? (t : Thread σ) : Option Address :=
  if t.progress.proceeds then t.callback.recipient? else none

/-- The recipients that the client of a session was told are accepted after callback `k`, in the order
in which they came in, each with the number of its callback. -/
def grants (T : Traffic σ) (id : Uuid) (k : Nat) : List (Nat × Address) :=
  T.threads.zipIdx.filterMap fun (t, i) =>
    if k < i ∧ t.session = some id then t.granted?.map (i, ·) else none

/-- The callback at the place `i` has panicked and been answered for it. -/
def panicked (T : Traffic σ) (i : Nat) : Bool :=
  (T.eventsOf i).any (·.task.isPanic)

/-- The recipients of `grants` that callbacks have told to be accepted which have not panicked. -/
def booked (T : Traffic σ) (id : Uuid) (k : Nat) : List Address :=
  ((T.grants id k).filter fun g => !T.panicked g.1).map (·.2)

theorem mem_grants {T : Traffic σ} {id : Uuid} {k i : Nat} {recipient : Address} :
    (i, recipient) ∈ T.grants id k ↔ k < i ∧ ∃ t, T.threads[i]? = some t ∧ t.session = some id ∧
      t.granted? = some recipient := by
  simp only [grants, List.mem_filterMap, Prod.exists, List.mk_mem_zipIdx_iff_getElem?]
  constructor
  · rintro ⟨t, j, hj, hg⟩
    split at hg
    · next hcond =>
      obtain ⟨_, hgranted, hpair⟩ := Option.map_eq_some_iff.1 hg
      cases hpair
      exact ⟨hcond.1, t, hj, hcond.2, hgranted⟩
    · cases hg
  · rintro ⟨hlt, t, hi, hsession, hgranted⟩
    exact ⟨t, i, hi, by rw [if_pos ⟨hlt, hsession⟩, hgranted]; rfl⟩

/-- Where nothing has come of an element by `g`, a new one in its place adds to the end at most, if
nothing comes of those after it. -/
theorem filterMap_zipIdx_set {α β : Type} {l : List α} {i : Nat} {a : α} (x : α)
    (hi : l[i]? = some a) {g : α × Nat → Option β} (ha : g (a, i) = none)
    (hlater : g (x, i) = none ∨ ∀ j b, i < j → l[j]? = some b → g (b, j) = none) :
    (l.set i x).zipIdx.filterMap g = l.zipIdx.filterMap g ++ (g (x, i)).toList := by
  obtain ⟨hlt, hget⟩ := List.getElem?_eq_some_iff.1 hi
  have hlength : (l.take i).length = i := List.length_take_of_le (Nat.le_of_lt hlt)
  -- both lists are the same before the element and after it
  have hparts : ∀ y, (l.take i ++ y :: l.drop (i + 1)).zipIdx.filterMap g
      = (l.take i).zipIdx.filterMap g ++ ((g (y, i)).toList ++
        ((l.drop (i + 1)).zipIdx (i + 1)).filterMap g) := by
    intro y
    rw [List.zipIdx_append, List.filterMap_append, List.zipIdx_cons, hlength, Nat.zero_add,
      List.filterMap_cons]
    cases g (y, i) <;> rfl
  have hsplit : l.take i ++ a :: l.drop (i + 1) = l := by
    rw [← hget, ← List.drop_eq_getElem_cons hlt, List.take_append_drop]
  have hold := hparts a
  rw [hsplit, ha] at hold
  rw [List.set_eq_take_append_cons_drop, if_pos hlt, hparts, hold]
  rcases hlater with hx | hlater
  · simp [hx]
  · have htail : ((l.drop (i + 1)).zipIdx (i + 1)).filterMap g = [] := by
      refine List.filterMap_eq_nil_iff.2 ?_
      rintro ⟨b, j⟩ hmem
      obtain ⟨hle, hj⟩ := List.mk_mem_zipIdx_iff_le_and_getElem?_sub.1 hmem
      rw [List.getElem?_drop, show i + 1 + (j - (i + 1)) = j by omega] at hj
      exact hlater j b (by omega) hj
    simp [htail]

section

variable {T : Traffic σ} {i : Nat} {thread : Thread σ} {task : Task σ} {p : Progress σ}
  {state : FilterState σ} {id : Uuid}

/-- A callback that is not over has nothing `granted?` yet. -/
theorem granted?_of_task (ht : thread.progress.task? = some task) : thread.granted? = none := by
  have hproceeds : thread.progress.proceeds = false := by
    cases hp : thread.progress with
    | done outcome =>
      rw [hp] at ht
      cases ht
    | _ => rfl
  rw [Thread.granted?, hproceeds]
  rfl

/-- Only the last callback of a session adds to its `grants`. -/
theorem grants_extend (hi : T.threads[i]? = some thread)
    (ht : thread.progress.task? = some task)
    (hlast : thread.session = some id → ∀ j t, i < j → T.threads[j]? = some t →
      t.session ≠ some id) (k : Nat) :
    (T.extend ⟨i, task, T.state, p, state⟩
        (T.threads.set i { thread with progress := p })).grants id k
      = T.grants id k ++ (if k < i ∧ thread.session = some id then
          ({ thread with progress := p } : Thread σ).granted?.map (i, ·) else none).toList := by
  refine filterMap_zipIdx_set _ hi ?_ ?_
  · dsimp only
    rw [granted?_of_task ht, Option.map_none, ite_self]
  · by_cases hsession : thread.session = some id
    · exact .inr fun j t hij hj => if_neg fun h => hlast hsession j t hij hj h.2
    · exact .inl (if_neg fun h => hsession h.2)

theorem panicked_extend (T : Traffic σ) (e : Event σ) (threads : List (Thread σ)) (j : Nat) :
    (T.extend e threads).panicked j
      = if e.thread = j then T.panicked j || e.task.isPanic else T.panicked j := by
  rw [panicked, eventsOf_extend]
  split
  · rw [List.any_append, List.any_cons, List.any_nil, Bool.or_false, panicked]
  · rfl

/-- What a callback that has gone on adds to the recipients that are `booked`. -/
theorem booked_extend (hi : T.threads[i]? = some thread)
    (ht : thread.progress.task? = some task)
    (hlast : thread.session = some id → ∀ j t, i < j → T.threads[j]? = some t →
      t.session ≠ some id) (k : Nat) :
    (T.extend ⟨i, task, T.state, p, state⟩
        (T.threads.set i { thread with progress := p })).booked id k
      = T.booked id k ++ (if k < i ∧ thread.session = some id ∧
            (T.panicked i || task.isPanic) = false then
          ({ thread with progress := p } : Thread σ).granted? else none).toList := by
  have hold : ∀ g ∈ T.grants id k, g.1 ≠ i := by
    rintro ⟨j, recipient⟩ hg rfl
    obtain ⟨-, t, hj, -, hgranted⟩ := mem_grants.1 hg
    rw [hi] at hj
    rw [← Option.some.inj hj, granted?_of_task ht] at hgranted
    cases hgranted
  rw [booked, grants_extend hi ht hlast, List.filter_append, List.map_append]
  congr 1
  · rw [booked]
    refine congrArg _ (List.filter_congr fun g hg => ?_)
    rw [panicked_extend, if_neg fun h => hold g hg h.symm]
  · by_cases hcounts : k < i ∧ thread.session = some id
    · rw [if_pos hcounts]
      cases ({ thread with progress := p } : Thread σ).granted? with
      | none => simp
      | some recipient =>
        cases hpanicked : T.panicked i || task.isPanic <;>
          simp [panicked_extend, hpanicked, hcounts]
    · rw [if_neg hcounts, if_neg fun h => hcounts ⟨h.1, h.2.1⟩]
      rfl

/-- A callback that has just been taken `grants` nothing. -/
theorem grants_concat {thread : Thread σ} (h : thread.granted? = none) (k : Nat) :
    ({ T with threads := T.threads ++ [thread] } : Traffic σ).grants id k = T.grants id k := by
  simp [grants, List.zipIdx_append, h]

end

/-! ### Booking -/

/-- `RCPT TO` on the session `id` is taken only where it can be found and its position leads on. -/
def Permits (id : Uuid) (T : Traffic σ) : Move σ → Prop
  | .call (some i) (.envRcpt _) => i = id →
    ((T.state.sessions.find? id).any fun s => (s.position.next .envRcpt).isSome) = true
  | _ => True

/-- Moves in which no `RCPT TO` on the session `id` is out of place: every move is one that the traffic
`Permits`. -/
def Permitted (f : Filter σ) (id : Uuid) (T : Traffic σ) : List (Move σ) → Prop
  | [] => True
  | m :: rest => T.Permits id m ∧ Permitted f id (T.move f m) rest

/-- The event begins the message `m` in the session `id`. -/
def Event.Begins (e : Event σ) (id : Uuid) (m : Message) : Prop :=
  (∃ args sasl, e.task = .called id (.envFrom args sasl)) ∧ m.id = Uuid.issued e.before.serial

/-- The callbacks on the session `id`, and what its open message has of the recipients
that are `booked`. -/
structure Booked (id : Uuid) (T : Traffic σ) : Prop where
  /-- Of two callbacks on the session, the earlier one is over. -/
  ended : ∀ (i j : Nat) (t u : Thread σ), i < j → T.threads[i]? = some t →
    T.threads[j]? = some u → t.session = some id → u.session = some id → t.progress.task? = none
  pursued : ∀ (i : Nat) (thread : Thread σ) (task : Task σ), T.threads[i]? = some thread →
    thread.session = some id → thread.progress.task? = some task → task.Pursues thread.callback
  permitted : ∀ (i : Nat) (thread : Thread σ) (s : Session), T.threads[i]? = some thread →
    thread.session = some id → thread.progress.task? = some (.called id thread.callback) →
    thread.callback.stage = .envRcpt → T.state.sessions.held? id = some s →
    (s.position.next .envRcpt).isSome = true
  recorded : ∀ s m, T.state.sessions.held? id = some s → s.current? = some m →
    ∃ e ∈ T.log, e.Begins id m ∧ m.recipients = T.booked id e.thread ∧
      ∃ t, T.threads[e.thread]? = some t ∧ t.session = some id ∧ t.progress.task? = none
  /-- Only clients on the allow list are granted a recipient after a panic. -/
  listed : ∀ (i : Nat) (t : Thread σ), T.threads[i]? = some t → t.session = some id →
    t.granted? ≠ none → T.panicked i = true → (id, true) ∈ T.state.sessions.clients

theorem booked_start (id : Uuid) (st : FilterState σ) : (start st).Booked id := by
  constructor
  · intro i j t u _ hi
    simp [start] at hi
  · intro i thread task hi
    simp [start] at hi
  · intro i thread s hi
    simp [start] at hi
  · rintro s m ⟨⟩
  · intro i t hi
    simp [start] at hi

section

variable {f : Filter σ} {T : Traffic σ} {id : Uuid}

/-- A callback is taken, and the session stays `Booked`. -/
theorem Booked.call (h : T.Booked id) (hT : T.Sound) {session : Option Uuid} {c : Callback}
    (hadmits : T.Admits (.call session c)) (hpermits : T.Permits id (.call session c)) :
    (T.move f (.call session c)).Booked id := by
  show ({ T with threads := T.threads ++ [⟨session, c, Filter.call session c T.state⟩] } :
    Traffic σ).Booked id
  -- nothing is granted yet, and `RCPT TO` finds its session
  have hgranted : (⟨session, c, Filter.call session c T.state⟩ : Thread σ).granted? = none := by
    unfold Thread.granted? Filter.call
    dsimp only
    split <;> rfl
  have hfound : session = some id → c.stage = .envRcpt → ∃ s,
      T.state.sessions.find? id = some s ∧ (s.position.next .envRcpt).isSome = true := by
    rintro rfl hstage
    cases c with
    | envRcpt args => exact (Option.any_eq_true _ _).1 (hpermits rfl)
    | _ => cases hstage
  have hcalled : ∀ task, session = some id →
      (Filter.call session c T.state).task? = some task → task.Pursues c := by
    rintro task rfl ht
    unfold Filter.call at ht
    split at ht
    · cases ht
    · cases ht
      rfl
    · cases ht
    · cases ht
    · next hnone _ _ =>
      -- the session cannot be found
      cases ht
      intro hstage
      obtain ⟨s, hs, -⟩ := hfound rfl hstage
      rw [Option.bind_some, hs] at hnone
      cases hnone
  constructor
  · intro i j t u hij hi hj ht hu
    rcases getElem?_concat_iff.1 hj with hj | ⟨rfl, rfl⟩
    · rcases getElem?_concat_iff.1 hi with hi | ⟨rfl, -⟩
      · exact h.ended i j t u hij hi hj ht hu
      · obtain ⟨hlt, -⟩ := List.getElem?_eq_some_iff.1 hj
        omega
    · -- a callback is taken on an idle session only
      rcases getElem?_concat_iff.1 hi with hold | ⟨rfl, -⟩
      · obtain rfl : session = some id := hu
        exact hadmits t (List.mem_of_getElem? hold) ht
      · omega
  · intro i thread task hi hsession ht
    rcases getElem?_concat_iff.1 hi with hi | ⟨-, rfl⟩
    · exact h.pursued i thread task hi hsession ht
    · exact hcalled task hsession ht
  · intro i thread s hi hsession ht hstage hs
    rcases getElem?_concat_iff.1 hi with hi | ⟨-, rfl⟩
    · exact h.permitted i thread s hi hsession ht hstage hs
    · obtain ⟨s', hfind, hposition⟩ := hfound hsession hstage
      rw [SessionTable.held?_of_find? hT.distinct hfind] at hs
      rw [← Option.some.inj hs]
      exact hposition
  · intro s m hs hm
    obtain ⟨e, he, hbegins, hrecipients, t, ht, hover⟩ := h.recorded s m hs hm
    refine ⟨e, he, hbegins, ?_, t, getElem?_concat_iff.2 (.inl ht), hover⟩
    rw [booked, grants_concat hgranted]
    exact hrecipients
  · intro i t hi hsession hgrant hpanicked
    rcases getElem?_concat_iff.1 hi with hi | ⟨-, rfl⟩
    · exact h.listed i t hi hsession hgrant hpanicked
    · exact absurd hgranted hgrant

/-- Sessions take their course, and callbacks stay where they are: the session stays `Booked`. -/
theorem Booked.of_undisturbed (h : T.Booked id) (hT : T.Sound) {T' : Traffic σ}
    (hthreads : T'.threads = T.threads) (hlog : T'.log = T.log)
    (hclients : (id, true) ∈ T.state.sessions.clients → (id, true) ∈ T'.state.sessions.clients)
    (hsession : ∀ s', T'.state.sessions.held? id = some s' →
      (s'.messages = [] ∧ id ∉ T.state.sessions.ids) ∨
        ∃ s, T.state.sessions.held? id = some s ∧ s.SameCourse s') : T'.Booked id := by
  have hbooked : ∀ k, T'.booked id k = T.booked id k := by
    intro k
    rw [booked, booked, grants, grants, hthreads]
    refine congrArg _ (List.filter_congr fun g _ => ?_)
    rw [panicked, panicked, eventsOf, eventsOf, hlog]
  constructor
  · rw [hthreads]
    exact h.ended
  · rw [hthreads]
    exact h.pursued
  · rw [hthreads]
    intro i thread s' hi hid ht hstage hs'
    rcases hsession s' hs' with ⟨-, hnew⟩ | ⟨s, hs, hsame⟩
    · -- a callback that has been taken holds a session that is there
      rcases hT.held i thread _ hi ht with ⟨id', hmem, hid'⟩ | ⟨_, _, hinterrupted⟩
      · rw [hid, Option.some.injEq] at hid'
        exact absurd (hid' ▸ hmem) hnew
      · cases hinterrupted
    · rw [hsame.position]
      exact h.permitted i thread s hi hid ht hstage hs
  · intro s' m hs' hm
    rcases hsession s' hs' with ⟨hnil, -⟩ | ⟨s, hs, hsame⟩
    · rw [Session.current?, hnil] at hm
      cases hm
    · rw [hsame.current?_eq] at hm
      obtain ⟨e, he, hbegins, hrecipients, hover⟩ := h.recorded s m hs hm
      rw [hlog, hthreads]
      exact ⟨e, he, hbegins, hrecipients.trans (hbooked _).symm, hover⟩
  · rw [hthreads]
    intro i t hi hid hgrant hpanicked
    rw [panicked, eventsOf, hlog] at hpanicked
    exact hclients (h.listed i t hi hid hgrant hpanicked)

/-- A callback that is not over has not `panicked`: it would have been answered for that. -/
theorem panicked_of_task (hT : T.Traced f) {i : Nat} {thread : Thread σ} {task : Task σ}
    (hi : T.threads[i]? = some thread) (ht : thread.progress.task? = some task) :
    T.panicked i = false := by
  have howes := (hT.owes i thread hi).of_task ht
  have hcalm : (account (T.eventsOf i)).isInterrupted = false := by
    generalize account (T.eventsOf i) = a at howes
    cases task with
    | called _ _ | asking _ _ _ | gating _ _ _ _ _ _ | gated _ _ _ _ =>
      rw [howes.2]
    | complete _ _ _ | judging _ _ _ _ | ruled _ | interrupted _ _ _ =>
      rw [show a = {} from howes]
    | concluded r record => rw [show a = { recorded := [(r, record)] } from howes]
    | told r record =>
      rw [show a = { recorded := [(r, record)], told := [(r, record)] } from howes]
  rw [account, List.any_eq_false] at hcalm
  rw [panicked, List.any_eq_false]
  intro e he
  have hnone := hcalm e he
  cases htask : e.task <;> simp_all [Task.isPanic, Task.isInterruption]

/-- The callbacks after one on the session that is not over are on other sessions, where the session is
`Booked`. -/
theorem Booked.last (h : T.Booked id) {i : Nat} {thread : Thread σ} {task : Task σ}
    (hi : T.threads[i]? = some thread) (ht : thread.progress.task? = some task)
    (hsession : thread.session = some id) (j : Nat) (t : Thread σ) (hij : i < j)
    (hj : T.threads[j]? = some t) : t.session ≠ some id := by
  intro hid
  rw [h.ended i j thread t hij hi hj hsession hid] at ht
  cases ht

/-- After a task, the earlier one of two callbacks on the session `id` is over still. -/
theorem Booked.ended_extend (h : T.Booked id) {i : Nat} {thread : Thread σ} {task : Task σ}
    {p : Progress σ} (hi : T.threads[i]? = some thread) (ht : thread.progress.task? = some task)
    {j k : Nat} {t u : Thread σ} (hjk : j < k)
    (hj : (T.threads.set i { thread with progress := p })[j]? = some t)
    (hk : (T.threads.set i { thread with progress := p })[k]? = some u)
    (htid : t.session = some id) (huid : u.session = some id) : t.progress.task? = none := by
  rcases (getElem?_set_iff hi).1 hj with ⟨rfl, rfl⟩ | ⟨-, hj⟩
  · -- nothing on the session comes after the callback
    rcases (getElem?_set_iff hi).1 hk with ⟨rfl, -⟩ | ⟨-, hk⟩
    · omega
    · exact absurd huid (h.last hi ht htid k u hjk hk)
  · rcases (getElem?_set_iff hi).1 hk with ⟨rfl, rfl⟩ | ⟨-, hk⟩
    · exact h.ended j i t thread hjk hj hi htid huid
    · exact h.ended j k t u hjk hj hk htid huid

/-- A message that is open before and after a task has all its recipients `booked`, with the one that the
task grants. -/
theorem Booked.recorded_further (h : T.Booked id) (htraced : T.Traced f) {i : Nat}
    {thread : Thread σ} {task : Task σ} {p : Progress σ} {state : FilterState σ}
    (hi : T.threads[i]? = some thread) (ht : thread.progress.task? = some task) {s : Session}
    {m m' : Message} (hs : T.state.sessions.held? id = some s) (hm : s.current? = some m)
    (hid : m'.id = m.id)
    (hrecipients : m'.recipients = m.recipients
      ++ (if thread.session = some id ∧ task.isPanic = false then
        ({ thread with progress := p } : Thread σ).granted? else none).toList) :
    ∃ e ∈ T.log, e.Begins id m' ∧
      m'.recipients = (T.extend ⟨i, task, T.state, p, state⟩
        (T.threads.set i { thread with progress := p })).booked id e.thread ∧
      ∃ t, (T.threads.set i { thread with progress := p })[e.thread]? = some t ∧
        t.session = some id ∧ t.progress.task? = none := by
  have hlast := h.last hi ht
  obtain ⟨e, he, hbegins, hbooked, t, hk, hsession, hover⟩ := h.recorded s m hs hm
  have hne : i ≠ e.thread := by
    intro heq
    rw [← heq, hi, Option.some.injEq] at hk
    rw [← hk, ht] at hover
    cases hover
  refine ⟨e, he, ⟨hbegins.1, hid.trans hbegins.2⟩, ?_, t,
    (getElem?_set_iff hi).2 (.inr ⟨hne, hk⟩), hsession, hover⟩
  -- the callback that has begun the message comes before the one that carries out the task
  have hcounts : (e.thread < i ∧ thread.session = some id ∧
      (T.panicked i || task.isPanic) = false) ↔
      (thread.session = some id ∧ task.isPanic = false) := by
    rw [panicked_of_task htraced hi ht, Bool.false_or]
    refine and_iff_right_of_imp fun hboth => ?_
    by_contra hlt
    exact hlast hboth.1 e.thread t (by omega) hk hsession
  rw [booked_extend hi ht hlast, hrecipients, hbooked]
  simp only [hcounts]

/-- Nothing has been `booked` yet by callbacks after the one that goes on. -/
theorem Booked.booked_last (h : T.Booked id) {i : Nat} {thread : Thread σ} {task : Task σ}
    {p : Progress σ} {state : FilterState σ} (hi : T.threads[i]? = some thread)
    (ht : thread.progress.task? = some task) (hsession : thread.session = some id) :
    (T.extend ⟨i, task, T.state, p, state⟩
      (T.threads.set i { thread with progress := p })).booked id i = [] := by
  have hnone : (T.extend ⟨i, task, T.state, p, state⟩
      (T.threads.set i { thread with progress := p })).grants id i = [] := by
    refine List.eq_nil_iff_forall_not_mem.2 ?_
    rintro ⟨j, recipient⟩ hg
    obtain ⟨hij, t, hj, htid, -⟩ := mem_grants.1 hg
    rcases (getElem?_set_iff hi).1 hj with ⟨rfl, -⟩ | ⟨-, hj⟩
    · omega
    · exact h.last hi ht hsession j t hij hj htid
  rw [booked, hnone]
  rfl

/-- A callback that grants a recipient for a panic is on the session of a client on the allow list: the
one among the `clients`. -/
theorem Booked.listed_extend (h : T.Booked id) (hT : T.Sound) (htraced : T.Traced f) {i : Nat}
    {thread : Thread σ} {task : Task σ} {p : Progress σ} {state : FilterState σ}
    (hi : T.threads[i]? = some thread) (ht : thread.progress.task? = some task)
    (hstep : f.step T.state task = (p, state)) {j : Nat} {t : Thread σ}
    (hj : (T.threads.set i { thread with progress := p })[j]? = some t)
    (hsession : t.session = some id) (hgrant : t.granted? ≠ none)
    (hpanicked : (T.extend ⟨i, task, T.state, p, state⟩
      (T.threads.set i { thread with progress := p })).panicked j = true) :
    (id, true) ∈ T.state.sessions.clients := by
  rw [panicked_extend] at hpanicked
  rcases (getElem?_set_iff hi).1 hj with ⟨rfl, rfl⟩ | ⟨hne, hj⟩
  · rw [if_pos rfl, panicked_of_task htraced hi ht, Bool.false_or] at hpanicked
    cases task with
    | interrupted stage session reason =>
      have hid : session = some id := (hT.session i thread _ hi ht).trans hsession
      subst hid
      refine Filter.listed_of_proceeds (congrArg Prod.fst hstep) ?_
      by_contra hproceeds
      exact hgrant (if_neg hproceeds)
    | _ => cases hpanicked
  · rw [if_neg hne] at hpanicked
    exact h.listed j t hj hsession hgrant hpanicked

/-- A callback has carried out a task. If it is on the session `id`, a message that is open after it gets
what is `granted?` to the callback, except after a panic. -/
theorem Booked.extend (h : T.Booked id) (hT : T.Sound) (htraced : T.Traced f) {i : Nat}
    {thread : Thread σ} {task : Task σ} {p : Progress σ} {state : FilterState σ}
    (hi : T.threads[i]? = some thread) (ht : thread.progress.task? = some task)
    (hstep : f.step T.state task = (p, state))
    (hnext : thread.session = some id → ∀ task', p.task? = some task' →
      task'.Pursues thread.callback ∧ ∀ j c, task' ≠ .called j c)
    (hother : thread.session ≠ some id →
      state.sessions.held? id = T.state.sessions.held? id)
    (hopen : ∀ s' m', state.sessions.held? id = some s' → s'.current? = some m' →
      (∃ s m, T.state.sessions.held? id = some s ∧ s.current? = some m ∧ m'.id = m.id ∧
        m'.recipients = m.recipients ++ (if thread.session = some id ∧ task.isPanic = false then
          ({ thread with progress := p } : Thread σ).granted? else none).toList) ∨
      (thread.session = some id ∧ p = .replied .proceed ∧ m'.recipients = [] ∧
        Event.Begins ⟨i, task, T.state, p, state⟩ id m')) :
    (T.extend ⟨i, task, T.state, p, state⟩
      (T.threads.set i { thread with progress := p })).Booked id := by
  constructor
  case ended => exact fun j k t u hjk hj hk => h.ended_extend hi ht hjk hj hk
  case pursued =>
    intro j t task' hj hsession ht'
    rcases (getElem?_set_iff hi).1 hj with ⟨rfl, rfl⟩ | ⟨-, hj⟩
    · exact (hnext hsession task' ht').1
    · exact h.pursued j t task' hj hsession ht'
  case permitted =>
    intro j t s' hj hsession ht' hstage hs'
    rcases (getElem?_set_iff hi).1 hj with ⟨rfl, rfl⟩ | ⟨hne, hj⟩
    · exact absurd rfl ((hnext hsession _ ht').2 _ _)
    · by_cases hid : thread.session = some id
      · -- only one callback on the session is not over
        rcases Nat.lt_or_gt_of_ne hne with hij | hji
        · exact absurd hsession (h.last hi ht hid j t hij hj)
        · rw [h.ended j i t thread hji hj hi hsession hid] at ht'
          cases ht'
      · rw [show state.sessions.held? id = _ from hother hid] at hs'
        exact h.permitted j t s' hj hsession ht' hstage hs'
  case recorded =>
    intro s' m' hs' hm'
    -- the message was open before, or the task has begun it and nothing is booked for it yet
    rcases hopen s' m' hs' hm' with ⟨s, m, hs, hm, hid, hrecipients⟩ | ⟨hsession, rfl, hnil, hbegins⟩
    · obtain ⟨e, he, hrecorded⟩ := h.recorded_further htraced hi ht hs hm hid hrecipients
      exact ⟨e, List.mem_append_left _ he, hrecorded⟩
    · exact ⟨_, List.mem_append_right _ (List.mem_singleton.2 rfl), hbegins,
        hnil.trans (h.booked_last hi ht hsession).symm, _,
        (getElem?_set_iff hi).2 (.inl ⟨rfl, rfl⟩), hsession, rfl⟩
  case listed =>
    intro j t hj hsession hgrant hpanicked
    have hkept := Filter.clients_step f hT.distinct task
    rw [hstep] at hkept
    show (id, true) ∈ state.sessions.clients
    rw [hkept]
    exact h.listed_extend hT htraced hi ht hstep hj hsession hgrant hpanicked

/-- A callback has carried out a task on its session, and the session `id` stays `Booked`. -/
theorem Booked.went (h : T.Booked id) (hT : T.Sound) (htraced : T.Traced f) (hO : T.InOrder)
    {i : Nat} {thread : Thread σ} {task : Task σ} {p : Progress σ} {state : FilterState σ}
    {id' : Uuid} {s s' : Session} (hi : T.threads[i]? = some thread)
    (ht : thread.progress.task? = some task) (hid : thread.session = some id')
    (hstep : f.step T.state task = (p, state)) (hs : T.state.sessions.held? id' = some s)
    (ho : task.Outcome f T.state id' s p s')
    (hheld : ∀ x, state.sessions.held? x
      = if id' = x then some s' else T.state.sessions.held? x) :
    (T.extend ⟨i, task, T.state, p, state⟩
      (T.threads.set i { thread with progress := p })).Booked id := by
  by_cases heq : id' = id
  · subst heq
    -- what the callback pursues and what its task adds are those of one step on its session
    have hpermit : task = .called id' thread.callback → thread.callback.stage = .envRcpt →
        (s.position.next .envRcpt).isSome = true := by
      rintro rfl hstage
      exact h.permitted i thread s hi hid ht hstage hs
    obtain ⟨hnext, hadds⟩ := Filter.pursues_step hs ((hT.session i thread task hi ht).trans hid) ho
      hstep (hO.busy i thread task id' s hi ht hid hs) (h.pursued i thread task hi hid ht) hpermit
    refine h.extend hT htraced hi ht hstep (fun _ => hnext) (fun hne => absurd hid hne) ?_
    intro x m' hx hm'
    rw [hheld, if_pos rfl, Option.some.injEq] at hx
    subst hx
    rcases ho.current?_or_begun (hO.settled id' s hs) hm' with
      ⟨m, hm, hmid, hrecipients⟩ | ⟨hbegins, hp, hmid, hnil⟩
    · -- what the task has added is what the callback grants
      have hgrants : (if thread.session = some id' ∧ task.isPanic = false then
          ({ thread with progress := p } : Thread σ).granted? else none) = task.adds? p := by
        cases hpanic : task.isPanic with
        | false =>
          rw [if_pos ⟨hid, rfl⟩]
          exact hadds hpanic
        | true =>
          cases task with
          | interrupted _ _ _ => simp [Task.adds?]
          | _ => cases hpanic
      exact .inl ⟨s, m, hs, hm, hmid, by rw [hgrants]; exact hrecipients⟩
    · exact .inr ⟨hid, hp, hnil, hbegins, hmid⟩
  · -- a callback on another session leaves this one as it is
    have hne : thread.session ≠ some id := by
      rw [hid]
      exact fun hsame => heq (Option.some.inj hsame)
    have hsame : state.sessions.held? id = T.state.sessions.held? id := by rw [hheld, if_neg heq]
    refine h.extend hT htraced hi ht hstep (fun hsession => absurd hsession hne) (fun _ => hsame) ?_
    intro x m hx hm
    refine .inl ⟨x, m, hsame ▸ hx, hm, rfl, ?_⟩
    rw [if_neg fun hboth => hne hboth.1]
    simp

/-- A callback without a session has been answered, and the session `id` stays `Booked`. -/
theorem Booked.answered (h : T.Booked id) (hT : T.Sound) (htraced : T.Traced f) {i : Nat}
    {thread : Thread σ} {stage : Stage} {reason : Interruption} {outcome : Except Panic Answer}
    {state : FilterState σ} (hi : T.threads[i]? = some thread)
    (ht : thread.progress.task? = some (.interrupted stage thread.session reason))
    (hstep : f.step T.state (.interrupted stage thread.session reason) = (.done outcome, state))
    (hsessions : state.sessions = T.state.sessions) :
    (T.extend ⟨i, .interrupted stage thread.session reason, T.state, .done outcome, state⟩
      (T.threads.set i { thread with progress := .done outcome })).Booked id := by
  refine h.extend hT htraced hi ht hstep (fun _ => by rintro task' ⟨⟩)
    (fun _ => by rw [hsessions]) fun s m hs hm => ?_
  refine .inl ⟨s, m, hsessions ▸ hs, hm, rfl, ?_⟩
  -- only a panic cuts `RCPT TO` short, and then the message gets nothing
  have hnone : (if thread.session = some id ∧
      (Task.interrupted stage thread.session reason : Task σ).isPanic = false then
        ({ thread with progress := .done outcome } : Thread σ).granted? else none) = none := by
    split
    · next hboth =>
      have hpursues := h.pursued i thread _ hi hboth.1 ht
      cases reason with
      | failure e =>
        show (if _ then thread.callback.recipient? else none) = none
        rw [Callback.recipient?_eq_none hpursues, ite_self]
      | panic _ => cases hboth.2
    · rfl
  rw [hnone]
  simp

/-- Every move but a call keeps `Booked`. -/
theorem Booked.of_moved (h : T.Booked id) (hT : T.Sound) (htraced : T.Traced f) (hO : T.InOrder)
    {m : Move σ} {T' : Traffic σ} (hcall : ∀ session c, m ≠ .call session c)
    (hclients : (id, true) ∈ T.state.sessions.clients → (id, true) ∈ T'.state.sessions.clients)
    (hm : Moved f T m T') : T'.Booked id := by
  cases hm with
  | @connected _ _ _ state s hid _ hmessages _ hsessions =>
    have hheld := SessionTable.held?_insert (s := s) (hid ▸ hT.not_issued)
    refine h.of_undisturbed hT rfl rfl hclients fun s' hs' => ?_
    rw [hsessions, hheld] at hs'
    split at hs'
    · next heq =>
      obtain rfl := Option.some.inj hs'
      exact .inl ⟨hmessages, heq ▸ hid ▸ hT.not_issued⟩
    · exact .inr ⟨s', hs', .refl s'⟩
  | taken _ | replied _ | unknown => exact absurd rfl (hcall _ _)
  | went hi ht hid hstep hs ho hsessions =>
    exact h.went hT htraced hO hi ht hid hstep hs ho (held?_of_outcome hs ho hsessions)
  | answered hi ht hstep hsessions => exact h.answered hT htraced hi ht hstep hsessions
  | aside g hg _ hsessions =>
    exact h.of_undisturbed hT rfl rfl hclients fun s' hs' => .inr (held?_of_aside hg hsessions hs')

/-- Every move that takes no callback too early, and no `RCPT TO` out of place, keeps `Booked`. -/
theorem booked_move (h : T.Booked id) (hT : T.Sound) (htraced : T.Traced f) (hO : T.InOrder)
    (m : Move σ) (hadmits : T.Admits m) (hpermits : T.Permits id m) :
    (T.move f m).Booked id := by
  have hmoved := moved_move f hT m
  have hclients : (id, true) ∈ T.state.sessions.clients → _ :=
    fun hlisted => clients_move f hT hlisted m
  cases m with
  | call session c => exact h.call hT hadmits hpermits
  | _ => exact h.of_moved hT htraced hO (by rintro _ _ ⟨⟩) hclients hmoved

theorem booked_run (h : T.Booked id) (hT : T.Sound) (htraced : T.Traced f) (hO : T.InOrder)
    {moves : List (Move σ)} (hsequential : T.Sequential f moves)
    (hpermitted : T.Permitted f id moves) : (T.run f moves).Booked id := by
  induction moves generalizing T with
  | nil => exact h
  | cons m rest ih =>
    have hmoved := moved_move f hT m
    exact ih (booked_move h hT htraced hO m hsequential.1 hpermitted.1) (sound_of_moved hT hmoved)
      (traced_of_moved htraced hmoved) (inOrder_of_moved hT hO hsequential.1 hmoved) hsequential.2
      hpermitted.2

end

/-! ### What the message has -/

/-- **The recipients of a message are those that the client was told are accepted**, the `grants` in this
order, just if none of their callbacks has `panicked`: what is told after a panic is not recorded. Only
clients on the allow list are told so after a panic. -/
theorem recipients_told_iff (f : Filter σ) (st : FilterState σ) (moves : List (Move σ)) (id : Uuid)
    (hsequential : (start st).Sequential f moves) (hpermitted : (start st).Permitted f id moves)
    {s : Session} {m : Message}
    (hs : ((start st).run f moves).state.sessions.held? id = some s) (hm : s.current? = some m) :
    ∃ e ∈ ((start st).run f moves).log, e.Begins id m ∧
      m.recipients = ((((start st).run f moves).grants id e.thread).filter fun g =>
        !((start st).run f moves).panicked g.1).map (·.2) ∧
      (m.recipients = (((start st).run f moves).grants id e.thread).map (·.2) ↔
        ∀ g ∈ ((start st).run f moves).grants id e.thread,
          ((start st).run f moves).panicked g.1 = false) ∧
      (s.isAllowListed = false →
        m.recipients = (((start st).run f moves).grants id e.thread).map (·.2)) := by
  have hT := sound_run f (sound_start st) moves
  have hbooked := booked_run (booked_start id st) (sound_start st) (traced_start f st)
    (inOrder_start st) hsequential hpermitted
  generalize (start st).run f moves = T at hs hT hbooked
  obtain ⟨e, he, hbegins, hrecipients, -⟩ := hbooked.recorded s m hs hm
  have hiff : m.recipients = (T.grants id e.thread).map (·.2) ↔
      ∀ g ∈ T.grants id e.thread, T.panicked g.1 = false := by
    rw [hrecipients, booked]
    constructor
    · intro heq
      have hlength := congrArg List.length heq
      rw [List.length_map, List.length_map, List.length_filter_eq_length_iff] at hlength
      intro g hg
      simpa using hlength g hg
    · intro hcalm
      rw [List.filter_eq_self.2 fun g hg => by rw [hcalm g hg]; rfl]
  refine ⟨e, he, hbegins, hrecipients, hiff, fun hlisted => hiff.2 ?_⟩
  rintro ⟨i, recipient⟩ hg
  obtain ⟨-, t, hi, hsession, hgranted⟩ := mem_grants.1 hg
  by_contra hpanicked
  rw [Bool.not_eq_false] at hpanicked
  -- the client would be on the list
  have hmem := hbooked.listed i t hi hsession (by rw [hgranted]; simp) hpanicked
  obtain ⟨x, hx, hclient⟩ := List.mem_map.1 hmem
  have hheld := SessionTable.held?_of_mem hT.distinct hx
  rw [show x.id = id from congrArg Prod.fst hclient, hs] at hheld
  rw [Option.some.inj hheld] at hlisted
  have hallow : x.isAllowListed = true := congrArg Prod.snd hclient
  rw [hallow] at hlisted
  cases hlisted

/-- A client on the allow list starts a message and names a recipient. -/
def listedRecipient : List (Move Unit) :=
  listedSender ++ [.call (some (Uuid.issued 0)) (.envRcpt ["<b@example.com>"]), .go 1, .go 1, .go 1]

/-- Without checkers the message has the recipient of `listedRecipient`. -/
theorem recipients_told_accepted :
    let T := (start lenient).run .bare listedRecipient
    (start lenient).Sequential .bare listedRecipient ∧
      (start lenient).Permitted .bare (Uuid.issued 0) listedRecipient ∧
      ∃ s m, T.state.sessions.held? (Uuid.issued 0) = some s ∧ s.current? = some m ∧
        ∃ e ∈ T.log, e.Begins (Uuid.issued 0) m ∧
          m.recipients = (T.grants (Uuid.issued 0) e.thread).map (·.2) := by
  intro T
  have hsequential : (start lenient).Sequential .bare listedRecipient := by
    refine ⟨trivial, ?_, trivial, ?_, trivial, trivial, trivial, trivial⟩ <;>
      (unfold Admits IsIdle; decide +kernel)
  have hpermitted : (start lenient).Permitted .bare (Uuid.issued 0) listedRecipient := by
    refine ⟨trivial, trivial, trivial, fun _ => ?_, trivial, trivial, trivial, trivial⟩
    decide +kernel
  have hopen : ((T.state.sessions.held? (Uuid.issued 0)).bind Session.current?).isSome = true := by
    decide +kernel
  obtain ⟨m, hm⟩ := Option.isSome_iff_exists.1 hopen
  obtain ⟨s, hs, hcurrent⟩ := Option.bind_eq_some_iff.1 hm
  have hcalm : ∀ e ∈ T.log, ∀ g ∈ T.grants (Uuid.issued 0) e.thread, T.panicked g.1 = false := by
    decide +kernel
  obtain ⟨e, he, hbegins, -, hiff, -⟩ :=
    recipients_told_iff .bare lenient listedRecipient _ hsequential hpermitted hs hcurrent
  exact ⟨hsequential, hpermitted, s, m, hs, hcurrent, e, he, hbegins, hiff.2 (hcalm e he)⟩

/-- A checker that panics over every recipient. -/
def frail : Filter Unit where
  registry := ⟨[{
    name := "gate"
    gate := fun _ _ s => ({ outcome := .panicked ⟨some "boom"⟩ }, s) }]⟩
  maxAgeSecs := 900

/-- The client is told that its recipient is accepted, and the message does not have it, because the
checker of `frail` has panicked over it. -/
theorem recipient_missing :
    let T := (start lenient).run frail listedRecipient
    (start lenient).Sequential frail listedRecipient ∧
      (start lenient).Permitted frail (Uuid.issued 0) listedRecipient ∧
      (∀ e ∈ T.log, e.before.config.milter.propagatePanics = false) ∧
      T.grants (Uuid.issued 0) 0 = [(1, Address.ofArgument "<b@example.com>")] ∧
      ∃ s m, T.state.sessions.held? (Uuid.issued 0) = some s ∧ s.current? = some m ∧
        m.recipients = [] ∧ ∃ e ∈ T.log, e.thread = 0 ∧ e.Begins (Uuid.issued 0) m := by
  intro T
  refine ⟨?_, ?_, by decide +kernel, by decide +kernel, ?_⟩
  · refine ⟨trivial, ?_, trivial, ?_, trivial, trivial, trivial, trivial⟩ <;>
      (unfold Admits IsIdle; decide +kernel)
  · refine ⟨trivial, trivial, trivial, fun _ => ?_, trivial, trivial, trivial, trivial⟩
    decide +kernel
  · have hopen : ((T.state.sessions.held? (Uuid.issued 0)).bind Session.current?).map
        (fun m => (m.id, m.recipients)) = some (Uuid.issued 1, []) := by
      decide +kernel
    obtain ⟨m, hm, hpair⟩ := Option.map_eq_some_iff.1 hopen
    obtain ⟨s, hs, hcurrent⟩ := Option.bind_eq_some_iff.1 hm
    obtain ⟨e, hk, hthread, htask, hserial⟩ : ∃ e, T.log[0]? = some e ∧ e.thread = 0 ∧
        e.task = .called (Uuid.issued 0) (.envFrom ["<a@example.org>"] {}) ∧
        e.before.serial = 1 :=
      ⟨_, by with_unfolding_all rfl, rfl, by with_unfolding_all rfl, by with_unfolding_all rfl⟩
    refine ⟨s, m, hs, hcurrent, congrArg Prod.snd hpair, e, List.mem_of_getElem? hk, hthread,
      ⟨_, _, htask⟩, ?_⟩
    rw [hserial]
    exact congrArg Prod.fst hpair

end Traffic

end MailFilter
