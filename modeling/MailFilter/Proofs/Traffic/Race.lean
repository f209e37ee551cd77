/-
The end of a message against everything that races with it.

A session is not locked while its message is being judged, so when the verdict is there the message may
have been abandoned or replaced, or its session may be gone. `Traffic` allows for every such order of
tasks. What a callback has done so far is settled by the task that it has come to: `Progress.Owes`; and
what it is about to judge, or has judged, is what it has given to the checkers itself:
`Progress.RestsOn`.

* `chores_step`: only one task has the modules told, and only one hands over the record of a message;
* `traced_run`: what each callback has done by the time it has come to a task;
* `eom_all_or_nothing`: the results for all traffic.
-/
import MailFilter.Proofs.Traffic.Apart
import MailFilter.Proofs.Traffic.Run

namespace MailFilter

variable {σ : Type}

/-! ### What is left to others -/

/-- What modules have to be told is in `st'` as it was in `st`, and no record of a message has been added
to the queue. -/
structure FilterState.Idle (st st' : FilterState σ) : Prop where
  followUps : st'.followUps = st.followUps
  queue : ∃ records : List SessionRecord,
    st'.queue = (records.map Record.session).foldl Queue.enqueue st.queue

namespace FilterState.Idle

variable {st st' : FilterState σ}

theorem of_eq (hf : st'.followUps = st.followUps) (hq : st'.queue = st.queue) : st.Idle st' :=
  ⟨hf, [], hq⟩

end FilterState.Idle

namespace Filter

theorem idle_locked {β : Type} (id : Uuid) (stage : Stage) (change : Change Session β)
    (next : β → Progress σ) {st st' : FilterState σ} (h : st.Idle st') :
    st.Idle (locked id stage change next st').2 := by
  unfold locked changeHeld
  cases st'.sessions.held? id with
  | none => exact h
  | some s =>
    dsimp only
    rcases change s with ⟨result, s'⟩
    cases result <;> exact ⟨h.followUps, h.queue⟩

theorem idle_answerFailure (stage : Stage) (id : Option Uuid) (e : Failure)
    {st st' : FilterState σ} (h : st.Idle st') : st.Idle (answerFailure stage id e st').2 := by
  unfold answerFailure
  dsimp only
  split
  · split <;> exact ⟨h.followUps, h.queue⟩
  · exact ⟨h.followUps, h.queue⟩

/-- Ending sessions with `leave` adds their records to the queue and no others. -/
theorem idle_leave (f : Filter σ) (id : Uuid) (st : FilterState σ) : st.Idle (st.leave f id) := by
  -- each session that is removed hands over a record of its own, in order
  have hfold : ∀ (removed : List Session) (st : FilterState σ),
      (removed.foldl (FilterState.finish f false) st).followUps = st.followUps ∧
      ∃ records : List SessionRecord, (removed.foldl (FilterState.finish f false) st).queue
        = (records.map Record.session).foldl Queue.enqueue st.queue := by
    intro removed
    induction removed with
    | nil => exact fun st => ⟨rfl, [], rfl⟩
    | cons s rest ih =>
      intro st
      obtain ⟨hf, records, hq⟩ := ih (st.finish f false s)
      exact ⟨hf, s.toRecord st.clock false :: records, hq⟩
  obtain ⟨hf, hq⟩ := hfold (st.sessions.remove id).1 { st with sessions := (st.sessions.remove id).2 }
  exact ⟨hf, hq⟩

theorem idle_judgeOn (id : Uuid) (config : Config) (ctx : CheckContext) (j : Judging σ)
    {st st' : FilterState σ} (h : st.Idle st') : st.Idle (judgeOn id config ctx j st').2 := by
  unfold judgeOn
  split <;> exact ⟨h.followUps, h.queue⟩

/-- What the task `task` does to what the modules have to be told, and to the queue. Once a verdict has
been recorded, every request of every one of its results is noted, with the module that has made it and
the final action; then the record of the message is put at the end of the queue, as long as that is open
and not full. No other task does either. -/
def Chores (task : Task σ) (st st' : FilterState σ) : Prop :=
  match task with
  | .concluded r _ => st' = { st with
      followUps := st.followUps ++ r.verdict.results.flatMap fun result =>
        result.followUps.map fun token => ⟨result.module, token, r.verdict.action⟩ }
  | .told _ record => st' = { st with
      queue := if st.queue.isOpen ∧ st.queue.waiting.length < st.queue.capacity
        then { st.queue with waiting := st.queue.waiting ++ [.message record] } else st.queue }
  | _ => st.Idle st'

/-- Only one task has the modules told, and only one hands over the record of a message: a `step` does
the `Chores` of its task. -/
theorem chores_step (f : Filter σ) (st : FilterState σ) (task : Task σ) :
    Chores task st (step f st task).2 := by
  have hrefl : st.Idle st := .of_eq rfl rfl
  cases task with
  | called id c =>
    cases c with
    | close => exact idle_leave f id st
    | _ => exact idle_locked _ _ _ _ (.of_eq rfl rfl)
  | asking id connection recipient | gating id connection recipient outcome deferred rest =>
    simp only [step, gateOn]
    split <;> exact FilterState.Idle.of_eq rfl rfl
  | gated id connection recipient answer =>
    simp only [step, gated]
    split
    · exact idle_locked _ _ _ _ hrefl
    · exact hrefl
  | complete id config ctx =>
    exact idle_judgeOn id config ctx _ (.of_eq rfl rfl)
  | judging id config ctx j => exact idle_judgeOn id config ctx _ (.of_eq rfl rfl)
  | ruled r => exact idle_locked _ _ _ _ hrefl
  -- here the follow-ups are noted, and in the next task the record is put into the queue
  | concluded r record => rfl
  | told r record =>
    show st.enqueue (.message record) = _
    simp only [FilterState.enqueue, Queue.enqueue, Queue.accepts, Bool.and_eq_true,
      decide_eq_true_eq]
  | interrupted stage id reason =>
    cases reason with
    | failure e => exact idle_answerFailure stage id e hrefl
    | panic p =>
      simp only [step, answerInterruption]
      split
      · exact FilterState.Idle.of_eq rfl rfl
      · exact idle_answerFailure _ _ _ (.of_eq rfl rfl)

end Filter

/-! ### Accounts -/

/-- What a callback has done: the verdicts it has recorded, those it has had the modules told, those
whose records it has handed to the queue, and whether its work has been cut short. -/
structure Account where
  recorded : List (Ruling × MessageRecord) := []
  told : List (Ruling × MessageRecord) := []
  handed : List (Ruling × MessageRecord) := []
  isInterrupted : Bool := false

namespace Task

/-- The verdict that the task has the modules told. -/
def told? : Task σ → Option (Ruling × MessageRecord)
  | concluded r record => some (r, record)
  | _ => none

/-- The verdict for which the task hands over the record of the message. -/
def handed? : Task σ → Option (Ruling × MessageRecord)
  | told r record => some (r, record)
  | _ => none

/-- The task answers for work that has been cut short. -/
def isInterruption : Task σ → Bool
  | interrupted .. => true
  | _ => false

/-- What the callback `c` has done, in its `Account`, when it comes to the task. -/
def Owes (c : Callback) (a : Account) : Task σ → Prop
  | called _ c' => c' = c ∧ a = {}
  | asking .. | gating .. | gated .. => c.stage ≠ .eom ∧ a = {}
  | complete .. | judging .. | ruled _ | interrupted .. => a = {}
  | concluded r record => a = { recorded := [(r, record)] }
  | told r record => a = { recorded := [(r, record)], told := [(r, record)] }

end Task

/-- What the callback `c` has done, in its `Account`, when it has come as far as `p`: all of it for one
verdict, or nothing. -/
def Progress.Owes (c : Callback) (a : Account) : Progress σ → Prop
  | .next task | .waiting _ task => task.Owes c a
  | .done outcome =>
    (∃ r record, outcome = .ok r.answer ∧
      a = { recorded := [(r, record)], told := [(r, record)], handed := [(r, record)] }) ∨
    a = { isInterrupted := true } ∨ (c.stage ≠ .eom ∧ a = {})

/-- A callback that is not over has done what it has done when it comes to its next task: what it `Owes`
there. -/
theorem Progress.Owes.of_task {c : Callback} {a : Account} {p : Progress σ} {task : Task σ}
    (h : p.Owes c a) (ht : p.task? = some task) : task.Owes c a := by
  cases p with
  | done outcome => cases ht
  | next t | waiting ms t =>
    cases ht
    exact h

namespace Traffic

/-- What a callback has done, in the account `a`, and what one of its tasks does. -/
def Event.addTo (e : Event σ) (a : Account) : Account where
  recorded := a.recorded ++ e.concluded?.toList
  told := a.told ++ e.task.told?.toList
  handed := a.handed ++ e.task.handed?.toList
  isInterrupted := a.isInterrupted || e.task.isInterruption

/-- What the events have done together, in one `Account`. -/
def account (events : List (Event σ)) : Account where
  recorded := events.filterMap Event.concluded?
  told := events.filterMap (·.task.told?)
  handed := events.filterMap (·.task.handed?)
  isInterrupted := events.any (·.task.isInterruption)

theorem account_concat (events : List (Event σ)) (e : Event σ) :
    account (events ++ [e]) = e.addTo (account events) := by
  have hone : ∀ g : Event σ → Option (Ruling × MessageRecord),
      [e].filterMap g = (g e).toList := by
    intro g
    cases hg : g e <;> simp [hg]
  simp [account, Event.addTo, List.filterMap_append, hone]

end Traffic

/-- The tasks that ask the checkers about a recipient, those with a `question?`, are not of the end of a
message. -/
theorem Task.Owes.of_question {c : Callback} {a : Account} {task : Task σ}
    {q : Connection × Address} (h : task.Owes c a) (hq : task.question? = some q) :
    c.stage ≠ .eom ∧ a = {} ∧ task.told? = none ∧ task.handed? = none ∧
      task.isInterruption = false := by
  cases task with
  | asking _ _ _ | gating _ _ _ _ _ _ => exact ⟨h.1, h.2, rfl, rfl, rfl⟩
  | _ => cases hq

theorem Task.Owes.of_matter {c : Callback} {a : Account} {task : Task σ}
    {q : Config × CheckContext} (h : task.Owes c a) (hq : task.matter? = some q) :
    a = {} ∧ task.told? = none ∧ task.handed? = none ∧ task.isInterruption = false := by
  cases task with
  | complete _ _ _ | judging _ _ _ _ => exact ⟨h, rfl, rfl, rfl⟩
  | _ => cases hq

/-- A callback that goes on after its first task, as `follow` has it, has done nothing yet. -/
theorem Filter.owes_follow (s : Session) (c : Callback) :
    (Filter.follow s c : Progress σ).Owes c {} ∧
      ∀ r record, (Filter.follow s c : Progress σ) ≠ .next (.concluded r record) := by
  unfold Filter.follow
  split
  · exact ⟨⟨by simp [Callback.stage], rfl⟩, by rintro r record ⟨⟩⟩
  · split
    · exact ⟨rfl, by rintro r record ⟨⟩⟩
    · exact ⟨rfl, by rintro r record ⟨⟩⟩
  · next heom =>
    refine ⟨.inr (.inr ⟨fun h => ?_, rfl⟩), by rintro r record ⟨⟩⟩
    obtain ⟨q, rfl⟩ := Callback.eom_of_stage h
    exact heom q rfl

namespace Traffic

/-- A task that a callback has come to leaves it with what it `Owes` then. -/
theorem owes_of_outcome {f : Filter σ} {st state : FilterState σ} {id : Uuid} {s s' : Session}
    {task : Task σ} {p : Progress σ} {c : Callback} {a : Account} (i : Nat) (h : task.Owes c a)
    (ho : task.Outcome f st id s p s') :
    p.Owes c (Event.addTo ⟨i, task, st, p, state⟩ a) := by
  -- a task that does none of this leaves the account as it is
  have hsame : ∀ {p' : Progress σ}, a = {} → task.told? = none → task.handed? = none →
      task.isInterruption = false → (∀ r record, p' ≠ .next (.concluded r record)) →
      Event.addTo ⟨i, task, st, p', state⟩ a = {} := by
    intro p' ha ht hh hi hp
    have hc : (⟨i, task, st, p', state⟩ : Event σ).concluded? = none := by
      rw [Option.eq_none_iff_forall_ne_some]
      rintro ⟨r, record⟩ hc
      exact hp r record (Event.concluded?_eq_some.1 hc)
    simp [Event.addTo, ha, ht, hh, hi, hc]
  cases ho with
  | closed =>
    obtain ⟨rfl, rfl⟩ := h
    exact .inr (.inr ⟨by simp [Callback.stage], rfl⟩)
  | failed hc he =>
    obtain ⟨-, rfl⟩ := h
    rfl
  | @followed c' _ hc he =>
    obtain ⟨rfl, ha⟩ := h
    obtain ⟨howes, hne⟩ : (Filter.follow s' c' : Progress σ).Owes c' {} ∧ _ :=
      Filter.owes_follow s' c'
    rw [hsame ha rfl rfl rfl hne]
    exact howes
  | decided hid hq =>
    obtain ⟨hstage, ha, ht, hh, hi⟩ := h.of_question hq
    exact ⟨hstage, hsame ha ht hh hi (by rintro r record ⟨⟩)⟩
  | panicked hid hq =>
    obtain ⟨-, ha, ht, hh, hi⟩ := h.of_question hq
    exact hsame ha ht hh hi (by rintro r record ⟨⟩)
  | asked hid hq =>
    obtain ⟨hstage, ha, ht, hh, hi⟩ := h.of_question hq
    exact ⟨hstage, hsame ha ht hh hi (by rintro r record ⟨⟩)⟩
  | refused hr =>
    obtain ⟨hstage, rfl⟩ := h
    exact .inr (.inr ⟨hstage, rfl⟩)
  | accepted hm =>
    obtain ⟨hstage, rfl⟩ := h
    exact .inr (.inr ⟨hstage, rfl⟩)
  | missed hm =>
    obtain ⟨-, rfl⟩ := h
    rfl
  | awaited hid hm hv hj =>
    obtain ⟨ha, ht, hh, hi⟩ := h.of_matter hm
    exact hsame ha ht hh hi (by rintro r record ⟨⟩)
  | judged hid hm hv =>
    obtain ⟨ha, ht, hh, hi⟩ := h.of_matter hm
    exact hsame ha ht hh hi (by rintro r record ⟨⟩)
  | concluded hr hm hid hl =>
    obtain rfl := h
    rfl
  | lost hr hm =>
    obtain rfl := h
    rfl
  | noted hr =>
    obtain rfl := h
    rfl
  | @handed r record hr =>
    -- the last of the three: it has been recorded and told already
    obtain rfl := h
    exact .inl ⟨r, record, rfl, rfl⟩
  | answered | ended he =>
    obtain rfl := h
    exact .inr (.inl rfl)

/-! ### What a verdict rests on -/

/-- The share that the callback at the place `i` has of the `log`. -/
def eventsOf (T : Traffic σ) (i : Nat) : List (Event σ) :=
  T.log.filter (·.thread = i)

/-- What the callback at the place `i` has given to the checkers: `snapshot?` of its events. -/
def snapshotsOf (T : Traffic σ) (i : Nat) : List (Uuid × Config × CheckContext) :=
  (T.eventsOf i).filterMap Event.snapshot?

theorem eventsOf_extend (T : Traffic σ) (e : Event σ) (threads : List (Thread σ)) (i : Nat) :
    (T.extend e threads).eventsOf i
      = if e.thread = i then T.eventsOf i ++ [e] else T.eventsOf i := by
  by_cases h : e.thread = i <;> simp [eventsOf, h]

theorem snapshotsOf_extend (T : Traffic σ) (e : Event σ) (threads : List (Thread σ))
    (i : Nat) :
    (T.extend e threads).snapshotsOf i
      = if e.thread = i then T.snapshotsOf i ++ e.snapshot?.toList else T.snapshotsOf i := by
  rw [snapshotsOf, eventsOf_extend]
  split
  · rw [snapshotsOf, List.filterMap_append]
    cases h : e.snapshot? <;> simp [h]
  · rfl

end Traffic

/-- The message of the ruling `r` has been given to the checkers as it was then, among `snapshots`, and
the verdict is theirs. -/
structure Ruling.RestsOn (f : Filter σ) (snapshots : List (Uuid × Config × CheckContext))
    (r : Ruling) : Prop where
  snapshot : (r.session, r.config, r.ctx) ∈ snapshots
  verdict : ∃ now m memory, r.verdict
    = (f.registry.judge r.config r.ctx now m memory).1.effective r.ctx.connection.allowListed

/-- What is judged has been given to the checkers, among `snapshots`, and what comes of it is their
verdict. -/
def Task.RestsOn (f : Filter σ) (snapshots : List (Uuid × Config × CheckContext)) :
    Task σ → Prop
  | complete id config ctx => (id, config, ctx) ∈ snapshots
  | judging id config ctx j => (id, config, ctx) ∈ snapshots ∧
    ∃ now m memory, j.Settles (f.registry.judge config ctx now m memory).1
  | ruled r => r.RestsOn f snapshots
  | _ => True

/-- The verdicts that a task `Foresees` are verdicts on what has been given to the checkers. -/
theorem Task.RestsOn.judge_eq {f : Filter σ}
    {snapshots : List (Uuid × Config × CheckContext)} {task : Task σ} {id : Uuid}
    {config : Config} {ctx : CheckContext} {v : Verdict Float} (h : task.RestsOn f snapshots)
    (hid : task.session? = some id) (hm : task.matter? = some (config, ctx))
    (hv : task.Foresees f v) :
    (id, config, ctx) ∈ snapshots ∧
      ∃ now m memory, v = (f.registry.judge config ctx now m memory).1 := by
  cases task with
  | complete i config' ctx' =>
    cases hid
    cases hm
    exact ⟨h, hv⟩
  | judging i config' ctx' j =>
    cases hid
    cases hm
    obtain ⟨hmem, now, m, memory, hj⟩ := h
    exact ⟨hmem, now, m, memory, Judging.Settles.unique m memory hv hj⟩
  | _ => cases hm

namespace Traffic

/-- What follows a task `RestsOn` what its callback has given to the checkers by then. -/
theorem restsOn_of_outcome {f : Filter σ} {st state : FilterState σ} {id : Uuid} {s s' : Session}
    {task task' : Task σ} {p : Progress σ} {snapshots : List (Uuid × Config × CheckContext)}
    (i : Nat) (h : task.RestsOn f snapshots) (ho : task.Outcome f st id s p s')
    (hp : p.task? = some task') :
    task'.RestsOn f
      (snapshots ++ (⟨i, task, st, p, state⟩ : Event σ).snapshot?.toList) := by
  cases ho with
  | followed hc he =>
    unfold Filter.follow at hp ⊢
    split at hp
    · cases hp
      trivial
    · split at hp
      · cases hp
        exact List.mem_append_right _ (List.mem_singleton.2 rfl)
      · cases hp
        trivial
    · cases hp
  | awaited hid hm hv hj =>
    cases hp
    obtain ⟨hmem, now, m, memory, rfl⟩ := h.judge_eq hid hm hv
    exact ⟨List.mem_append_left _ hmem, now, m, memory, hj⟩
  | judged hid hm hv =>
    cases hp
    obtain ⟨hmem, now, m, memory, rfl⟩ := h.judge_eq hid hm hv
    exact ⟨List.mem_append_left _ hmem, now, m, memory, rfl⟩
  | closed | refused _ | accepted _ | handed _ | answered | ended _ => cases hp
  | failed _ _ | decided _ _ | panicked _ _ | asked _ _ | missed _ | concluded _ _ _ _
  | lost _ _ | noted _ =>
    cases hp
    trivial

/-! ### Traces -/

/-- The event `e` is a `step` of the filter on one session, or an answer to work that was cut short. -/
structure Event.Faithful (f : Filter σ) (e : Event σ) : Prop where
  step : f.step e.before e.task = (e.result, e.after)
  session : e.task.isInterruption = true ∨
    ∃ id s s', e.before.sessions.held? id = some s ∧ e.task.Outcome f e.before id s e.result s' ∧
      ∀ id', e.after.sessions.held? id'
        = if id = id' then some s' else e.before.sessions.held? id'

/-- What the callbacks have done, as far as each of them has come: every event is `Faithful`, and every
callback stands at what it `Owes`. -/
structure Traced (f : Filter σ) (T : Traffic σ) : Prop where
  taken : ∀ e ∈ T.log, e.thread < T.threads.length
  faithful : ∀ e ∈ T.log, e.Faithful f
  owes : ∀ (i : Nat) (thread : Thread σ), T.threads[i]? = some thread →
    thread.progress.Owes thread.callback (account (T.eventsOf i))
  restsOn : ∀ (i : Nat) (thread : Thread σ) (task : Task σ), T.threads[i]? = some thread →
    thread.progress.task? = some task → task.RestsOn f (T.snapshotsOf i)
  ruling : ∀ e ∈ T.log, ∀ r record, e.concluded? = some (r, record) →
    r.RestsOn f (T.snapshotsOf e.thread)

/-- A callback that has not been taken has done nothing: its `eventsOf` is empty. -/
theorem Traced.eventsOf_eq_nil {f : Filter σ} {T : Traffic σ} (h : T.Traced f) {i : Nat}
    (hi : T.threads[i]? = none) : T.eventsOf i = [] := by
  refine List.filter_eq_nil_iff.2 fun e he => ?_
  have hlt := h.taken e he
  have hle := List.getElem?_eq_none_iff.1 hi
  simp only [decide_eq_true_eq]
  omega

theorem traced_start (f : Filter σ) (st : FilterState σ) : (start st).Traced f where
  taken := by
    intro e he
    cases he
  faithful := by
    intro e he
    cases he
  owes := by
    intro i thread hi
    simp [start] at hi
  restsOn := by
    intro i thread task hi
    simp [start] at hi
  ruling := by
    intro e he
    cases he

/-- A callback that has just been taken has done nothing, so the traffic stays `Traced`. -/
theorem traced_of_thread {f : Filter σ} {T : Traffic σ} (h : T.Traced f) {session : Option Uuid}
    {c : Callback} {p : Progress σ} (howes : p.Owes c {})
    (hrests : ∀ task, p.task? = some task → task.RestsOn f []) :
    ({ T with threads := T.threads ++ [⟨session, c, p⟩] } : Traffic σ).Traced f := by
  -- no event in the log can be of a callback with this number
  have hnone : T.eventsOf T.threads.length = [] :=
    h.eventsOf_eq_nil (List.getElem?_eq_none_iff.2 (Nat.le_refl _))
  constructor
  · intro e he
    have hlt := h.taken e he
    rw [List.length_append]
    omega
  · exact h.faithful
  · intro i thread hi
    rcases getElem?_concat_iff.1 hi with hi | ⟨rfl, rfl⟩
    · exact h.owes i thread hi
    · show p.Owes c (account (T.eventsOf T.threads.length))
      rw [hnone]
      exact howes
  · intro i thread task hi ht
    rcases getElem?_concat_iff.1 hi with hi | ⟨rfl, rfl⟩
    · exact h.restsOn i thread task hi ht
    · show task.RestsOn f ((T.eventsOf T.threads.length).filterMap Event.snapshot?)
      rw [hnone]
      exact hrests task ht
  · exact h.ruling

/-- A callback that carries out a task adds to its own `account`, and to no other: the traffic stays
`Traced`. -/
theorem traced_of_event {f : Filter σ} {T : Traffic σ} (h : T.Traced f) {i : Nat}
    {thread : Thread σ} {task : Task σ} {p : Progress σ} {state : FilterState σ}
    (hi : T.threads[i]? = some thread)
    (hfaithful : Event.Faithful f ⟨i, task, T.state, p, state⟩)
    (howes : p.Owes thread.callback
      (Event.addTo ⟨i, task, T.state, p, state⟩ (account (T.eventsOf i))))
    (hrests : ∀ task', p.task? = some task' → task'.RestsOn f
      (T.snapshotsOf i ++ (⟨i, task, T.state, p, state⟩ : Event σ).snapshot?.toList))
    (hruling : ∀ r record, p = .next (.concluded r record) → r.RestsOn f (T.snapshotsOf i)) :
    (T.extend ⟨i, task, T.state, p, state⟩
      (T.threads.set i { thread with progress := p })).Traced f := by
  obtain ⟨hlt, -⟩ := List.getElem?_eq_some_iff.1 hi
  constructor
  · intro e he
    rw [List.length_set]
    rcases List.mem_append.1 he with he | he
    · exact h.taken e he
    · rw [List.mem_singleton.1 he]
      exact hlt
  · intro e he
    rcases List.mem_append.1 he with he | he
    · exact h.faithful e he
    · rw [List.mem_singleton.1 he]
      exact hfaithful
  · intro j thread' hj
    rw [eventsOf_extend]
    rcases (getElem?_set_iff hi).1 hj with ⟨rfl, rfl⟩ | ⟨hne, hj⟩
    · rw [if_pos rfl, account_concat]
      exact howes
    · rw [if_neg hne]
      exact h.owes j thread' hj
  · intro j thread' task' hj ht'
    rw [snapshotsOf_extend]
    rcases (getElem?_set_iff hi).1 hj with ⟨rfl, rfl⟩ | ⟨hne, hj⟩
    · rw [if_pos rfl]
      exact hrests task' ht'
    · rw [if_neg hne]
      exact h.restsOn j thread' task' hj ht'
  · intro e he r record hc
    -- more snapshots do no harm
    have hmore : ∀ j, r.RestsOn f (T.snapshotsOf j) → r.RestsOn f
        ((T.extend ⟨i, task, T.state, p, state⟩
          (T.threads.set i { thread with progress := p })).snapshotsOf j) := by
      intro j hr
      refine ⟨?_, hr.verdict⟩
      rw [snapshotsOf_extend]
      split
      · exact List.mem_append_left _ hr.snapshot
      · exact hr.snapshot
    refine hmore e.thread ?_
    rcases List.mem_append.1 he with he | he
    · exact h.ruling e he r record hc
    · rw [List.mem_singleton.1 he] at hc ⊢
      exact hruling r record (Event.concluded?_eq_some.1 hc)

/-- Every move keeps `Traced`. -/
theorem traced_of_moved {f : Filter σ} {T T' : Traffic σ} {m : Move σ} (h : T.Traced f)
    (hm : Moved f T m T') : T'.Traced f := by
  cases hm with
  | connected _ _ _ _ _ | aside _ _ _ _ => exact ⟨h.1, h.2, h.3, h.4, h.5⟩
  | taken hid =>
    refine traced_of_thread h ⟨rfl, rfl⟩ ?_
    rintro task ⟨⟩
    trivial
  | replied hc =>
    refine traced_of_thread h (.inr (.inr ⟨fun hstage => ?_, rfl⟩)) ?_
    · obtain ⟨q, rfl⟩ := Callback.eom_of_stage hstage
      exact hc q rfl
    · rintro task ⟨⟩
  | unknown =>
    refine traced_of_thread h rfl ?_
    rintro task ⟨⟩
    trivial
  | @went i thread task p state id s s' hi ht hid hstep hs ho hsessions =>
    have howes := (h.owes i thread hi).of_task ht
    have hrests := h.restsOn i thread task hi ht
    refine traced_of_event h hi ⟨hstep, .inr ⟨id, s, s', hs, ho, held?_of_outcome hs ho hsessions⟩⟩
      (owes_of_outcome i howes ho) (fun _ => restsOn_of_outcome i hrests ho) ?_
    intro r record hp
    -- only a ruling is concluded, and rulings rest on what was given to the checkers
    obtain ⟨rfl, -⟩ := ho.concluded_eq hp
    exact hrests
  | @answered i thread stage reason outcome state hi ht hstep hsessions =>
    have howes : account (T.eventsOf i) = {} := (h.owes i thread hi).of_task ht
    refine traced_of_event h hi ⟨hstep, .inl rfl⟩ ?_ (by rintro task ⟨⟩) (by rintro r record ⟨⟩)
    rw [howes]
    exact .inr (.inl rfl)

theorem traced_run (f : Filter σ) (st : FilterState σ) (moves : List (Move σ)) :
    ((start st).run f moves).Traced f :=
  run_induction (fun _ _ _ _ h hm => traced_of_moved h hm) (sound_start st) (traced_start f st) moves

/-! ### All or nothing -/

/-- The verdict of `r` is recorded by the event on the message that it belongs to, which is open until
then, and on no other. -/
def Event.Finalizes (e : Event σ) (r : Ruling) (record : MessageRecord) : Prop :=
  ∃ s m headers, e.before.sessions.held? r.session = some s ∧ s.current? = some m ∧
    m.id = r.ctx.message.id ∧
    record = ({ m with headers, verdict := some r.verdict } : Message).toRecord ∧
    ∀ id, e.after.sessions.held? id
      = if r.session = id then some (s.replaceLast { m with headers, verdict := some r.verdict })
        else e.before.sessions.held? id

/-- The end of a message, at the place `i`, that has come to its verdict: it has been recorded, the
modules have been told and the record has been handed over, all once by its `account`, and in the end
answered for. -/
def Completed (T : Traffic σ) (i : Nat) (outcome : Except Panic Answer) : Prop :=
  ∃ r record, outcome = .ok r.answer ∧ account (T.eventsOf i)
    = { recorded := [(r, record)], told := [(r, record)], handed := [(r, record)] }

/-- The end of a message, at the place `i`, that has been cut short: it has done nothing of that by its
`account`, and a verdict that came too late has changed no session. -/
def CutShort (T : Traffic σ) (i : Nat) : Prop :=
  account (T.eventsOf i) = { isInterrupted := true } ∧
    ∀ e ∈ T.eventsOf i, ∀ r, e.task = .ruled r →
      ∀ id, e.after.sessions.held? id = e.before.sessions.held? id

/-- What becomes of the ends of messages in traffic: each is `Completed`, or `CutShort`,
once it is over. -/
structure AllOrNothing (f : Filter σ) (T : Traffic σ) : Prop where
  /-- Each message gets one verdict at most, and keeps it. -/
  recorded : T.Recorded
  /-- No message is given to the checkers twice. -/
  once : T.snapshotIds.Nodup
  /-- A callback records the verdict on what it has given to the checkers itself. -/
  ruling : ∀ e ∈ T.log, ∀ r record, e.concluded? = some (r, record) →
    r.RestsOn f (T.snapshotsOf e.thread) ∧ e.Finalizes r record
  /-- An end of a message does all that its verdict entails, or nothing of it. -/
  outcome : ∀ (i : Nat) (thread : Thread σ) (outcome : Except Panic Answer),
    T.threads[i]? = some thread → thread.callback.stage = .eom →
    thread.progress = .done outcome → T.Completed i outcome ∨ T.CutShort i
  /-- To have the modules told and to hand over a record is what it says, and happens nowhere
  else. -/
  chores : ∀ e ∈ T.log, Filter.Chores e.task e.before e.after
  /-- A callback that is left to itself comes to its end. -/
  ends : ∀ (i : Nat) (thread : Thread σ) (task : Task σ), T.threads[i]? = some thread →
    thread.progress.task? = some task →
    ∃ n outcome, (T.run f (List.replicate n (.go i))).threads[i]?
      = some { thread with progress := .done outcome }

theorem Event.Faithful.finalizes {f : Filter σ} {e : Event σ} (h : e.Faithful f) {r : Ruling}
    {record : MessageRecord} (hc : e.concluded? = some (r, record)) : e.Finalizes r record := by
  have hresult := Event.concluded?_eq_some.1 hc
  rcases h.session with hi | ⟨id, s, s', hs, ho, hheld⟩
  · -- work that was cut short records nothing
    obtain ⟨i, task, before, result, after⟩ := e
    obtain rfl : result = .next (.concluded r record) := hresult
    cases task with
    | interrupted stage id reason =>
      obtain ⟨outcome, hdone⟩ := Filter.done_of_answerInterruption stage id before reason
      have hstep := h.step
      rw [show f.step before (.interrupted stage id reason)
        = Filter.answerInterruption stage id before reason from rfl] at hstep
      rw [hstep] at hdone
      cases hdone
    | _ => cases hi
  · obtain ⟨-, rfl, m, headers, hm, hid, rfl, rfl, -⟩ := ho.concluded_eq hresult
    exact ⟨s, m, headers, hs, hm, hid, rfl, hheld⟩

/-- A verdict that is not recorded, by `concluded?`, changes no session. -/
theorem Event.Faithful.unchanged {f : Filter σ} {e : Event σ} (h : e.Faithful f) {r : Ruling}
    (ht : e.task = .ruled r) (hc : e.concluded? = none) (id : Uuid) :
    e.after.sessions.held? id = e.before.sessions.held? id := by
  obtain ⟨i, task, before, result, after⟩ := e
  obtain rfl : task = .ruled r := ht
  rcases h.session with hi | ⟨id', s, s', hs, ho, hheld⟩
  · cases hi
  · cases ho with
    | concluded _ _ _ _ => cases hc
    | decided _ hq | panicked _ hq | asked _ hq => cases hq
    | awaited _ hm _ _ | judged _ hm _ => cases hm
    | lost _ _ =>
      show after.sessions.held? id = before.sessions.held? id
      rw [hheld]
      split
      · next heq => rw [← heq, hs]
      · rfl

/-- **The end of a message is `AllOrNothing`**, whatever races with it. -/
theorem eom_all_or_nothing (f : Filter σ) (st : FilterState σ) (moves : List (Move σ)) :
    ((start st).run f moves).AllOrNothing f := by
  have htraced := traced_run f st moves
  refine ⟨recorded_run f st moves, (apart_run f st moves).snapshotNodup, ?_, ?_, ?_, ?_⟩
  · intro e he r record hc
    exact ⟨htraced.ruling e he r record hc, (htraced.faithful e he).finalizes hc⟩
  · intro i thread outcome hi hstage hdone
    have howes := htraced.owes i thread hi
    rw [hdone] at howes
    rcases howes with ⟨r, record, hanswer, haccount⟩ | haccount | ⟨hne, -⟩
    · exact .inl ⟨r, record, hanswer, haccount⟩
    · refine .inr ⟨haccount, fun e he r ht => ?_⟩
      -- a verdict that it has not recorded has come too late
      refine (htraced.faithful e (List.mem_of_mem_filter he)).unchanged ht ?_
      have hrecorded := congrArg Account.recorded haccount
      exact List.filterMap_eq_nil_iff.1 hrecorded e he
    · exact absurd hstage hne
  · intro e he
    have hchores := Filter.chores_step f e.before e.task
    rwa [(htraced.faithful e he).step] at hchores
  · intro i thread task hi ht
    have hreaches : Reaches _ i thread thread.progress _ := ⟨hi, rfl⟩
    exact ends_of_task f hreaches ht

/-- A message that is abandoned when its verdict is there already: nothing is recorded. -/
example :
    let T := (start (.blank {})).run .bare
      [.connect none none none, .call (some (Uuid.issued 0)) (.envFrom ["<a@example.org>"] {}), .go 0,
        .call (some (Uuid.issued 0)) (.envRcpt ["<b@example.com>"]), .go 1, .go 1, .go 1,
        .call (some (Uuid.issued 0)) (.eom none), .go 2, .go 2,
        .call (some (Uuid.issued 0)) .abort, .go 3, .go 2, .go 2]
    (account (T.eventsOf 2)).isInterrupted = true ∧ T.concluded.length = 0 ∧
      T.state.queue.waiting.length = 0 := by
  decide +kernel

end Traffic

end MailFilter
