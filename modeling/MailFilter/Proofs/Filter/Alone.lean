/-
One session in a filter with others, and the same session alone.

Of a state, `FilterState.Alone` keeps what a task of one session can see: the settings, the clock, the
next identifier, and that session. The memory of the checkers, the metrics and the queue may be
different ones, so the checkers must be such that their memory has no say in what they find.

* `alone_step`: a task of the session does the same with the others and without them;
* `unmoved_step`: a task of another session leaves the session as it is;
* `queue_step`: the records that a task hands to the queue.
-/
import MailFilter.Filter.Run
import MailFilter.Proofs.Filter.Matching
import MailFilter.Proofs.Session.AllowList

namespace MailFilter

variable {σ : Type}

/-! ### Checkers without a memory -/

/-- What a checker finds by its `check` and its `gate` does not depend on what the checkers remember. -/
structure Checker.Memoryless (c : Checker σ) : Prop where
  check : ∀ ctx now s s', (c.check ctx now s').1 = (c.check ctx now s).1
  gate : ∀ connection recipient s s',
    (c.gate connection recipient s').1 = (c.gate connection recipient s).1

/-- The checkers that a recipient has still to be put to, if the task is `gating`. -/
def Task.unasked : Task σ → List (Checker σ)
  | gating _ _ _ _ _ rest => rest
  | _ => []

namespace Registry

theorem askFrom_congr {cs : List (Checker σ)} (hcs : ∀ c ∈ cs, c.Memoryless)
    (connection : Connection) (recipient : Address) (deferred : Option RecipientVerdict) (s s' : σ) :
    (askFrom connection recipient deferred cs s').1
      = (askFrom connection recipient deferred cs s).1 := by
  induction cs generalizing deferred s s' with
  | nil => rfl
  | cons c cs ih =>
    obtain ⟨hc, hcs⟩ := List.forall_mem_cons.1 hcs
    have hrun := hc.gate connection recipient s s'
    simp only [askFrom, hrun]
    split
    · cases answerOf (c.gate connection recipient s).1.outcome with
      | error p => rfl
      | ok v =>
        dsimp only
        split
        · rfl
        · exact ih hcs ..
    · rfl

theorem askOn_congr {cs : List (Checker σ)} (hcs : ∀ c ∈ cs, c.Memoryless)
    (connection : Connection) (recipient : Address) (outcome : GateOutcome)
    (deferred : Option RecipientVerdict) (s s' : σ) :
    (askOn connection recipient outcome deferred cs s').1
      = (askOn connection recipient outcome deferred cs s).1 := by
  unfold askOn
  cases answerOf outcome with
  | error p => rfl
  | ok v =>
    dsimp only
    split
    · rfl
    · exact askFrom_congr hcs ..

/-- Checkers are asked in turn by `askFrom`: those that have not been asked yet come last. -/
theorem askFrom_suffix {connection : Connection} {recipient : Address}
    {deferred deferred' : Option RecipientVerdict} {cs rest : List (Checker σ)} {s : σ} {ms : Nat}
    {outcome : GateOutcome}
    (h : (askFrom connection recipient deferred cs s).1 = .waiting ms outcome deferred' rest) :
    rest <:+ cs := by
  induction cs generalizing deferred s with
  | nil => simp [askFrom] at h
  | cons c cs ih =>
    simp only [askFrom] at h
    split at h
    · split at h
      · cases h
      · split at h
        · cases h
        · exact (ih h).trans (List.suffix_cons c cs)
    · cases h
      exact List.suffix_cons ..

theorem askOn_suffix {connection : Connection} {recipient : Address}
    {deferred deferred' : Option RecipientVerdict} {cs rest : List (Checker σ)} {s : σ} {ms : Nat}
    {outcome outcome' : GateOutcome}
    (h : (askOn connection recipient outcome deferred cs s).1 = .waiting ms outcome' deferred' rest) :
    rest <:+ cs := by
  unfold askOn at h
  split at h
  · cases h
  · split at h
    · cases h
    · exact askFrom_suffix h

end Registry

theorem Judging.startAll_congr {cs : List (Checker σ)} (hcs : ∀ c ∈ cs, c.Memoryless)
    (config : Config) (ctx : CheckContext) (now : Timestamp) (place : Nat) (s s' : σ) :
    (startAll config ctx now place cs s').1 = (startAll config ctx now place cs s).1 := by
  induction cs generalizing place s s' with
  | nil => rfl
  | cons c cs ih =>
    obtain ⟨hc, hcs⟩ := List.forall_mem_cons.1 hcs
    have hrun := hc.check ctx now s s'
    simp only [startAll, hrun, ih hcs (place + 1) (c.check ctx now s).2 (c.check ctx now s').2]

theorem Judging.start_congr {registry : Registry σ} (h : ∀ c ∈ registry.enabled, c.Memoryless)
    (config : Config) (ctx : CheckContext) (now : Timestamp) (s s' : σ) :
    (start registry config ctx now s').1 = (start registry config ctx now s).1 := by
  unfold start
  dsimp only
  rw [startAll_congr h config ctx now 0 s s']

/-! ### What concerns one session -/

/-- The state `st'` has the settings, the time and the next identifier of `st`, and of its sessions
`only` one. -/
structure FilterState.Alone (id : Uuid) (st st' : FilterState σ) : Prop where
  config : st'.config = st.config
  clock : st'.clock = st.clock
  serial : st'.serial = st.serial
  sessions : st'.sessions = st.sessions.only id

namespace FilterState.Alone

variable {id : Uuid} {st st' : FilterState σ}

theorem find? (h : st.Alone id st') : st'.sessions.find? id = st.sessions.find? id := by
  rw [h.sessions, SessionTable.find?_only]

theorem held? (h : st.Alone id st') : st'.sessions.held? id = st.sessions.held? id := by
  rw [h.sessions, SessionTable.held?_only]

theorem update (h : st.Alone id st') (s : Session) : (st.update s).Alone id (st'.update s) where
  config := h.config
  clock := h.clock
  serial := h.serial
  sessions := by
    show st'.sessions.update s = (st.sessions.update s).only id
    rw [h.sessions, SessionTable.only_update]

end FilterState.Alone

namespace Filter

variable {f : Filter σ} {id : Uuid} {st st' : FilterState σ}

/-! ### A task of the session -/

theorem alone_locked (h : st.Alone id st') {β : Type} (stage : Stage) (change : Change Session β)
    (next : β → Progress σ) :
    Matches (FilterState.Alone id) (locked id stage change next st)
      (locked id stage change next st') :=
  matches_locked h h.held? h.update ..

theorem leave_surroundings (f : Filter σ) (i : Uuid) (st : FilterState σ) :
    (st.leave f i).config = st.config ∧ (st.leave f i).clock = st.clock :=
  have hfinish : ∀ (st : FilterState σ) (s : Session),
      ((st.finish f false s).config, (st.finish f false s).clock) = (st.config, st.clock) :=
    fun _ _ => rfl
  Prod.mk.inj (foldl_keeps (fun st => (st.config, st.clock)) hfinish _ _)

theorem alone_leave (h : st.Alone id st') (f : Filter σ) :
    (st.leave f id).Alone id (st'.leave f id) := by
  obtain ⟨hconfig, hclock⟩ := leave_surroundings f id st
  obtain ⟨hconfig', hclock'⟩ := leave_surroundings f id st'
  obtain ⟨hsessions, hserial⟩ := leave_keeps f id st
  obtain ⟨hsessions', hserial'⟩ := leave_keeps f id st'
  constructor
  · rw [hconfig', hconfig, h.config]
  · rw [hclock', hclock, h.clock]
  · rw [hserial', hserial, h.serial]
  · rw [hsessions', hsessions, h.sessions, (SessionTable.only_remove st.sessions id).2]

theorem alone_act (h : st.Alone id st') (f : Filter σ) (c : Callback) :
    Matches (FilterState.Alone id) (act f id c st) (act f id c st') := by
  have hfresh : st.fresh.2.Alone id st'.fresh.2 :=
    ⟨h.config, h.clock, congrArg (· + 1) h.serial, h.sessions⟩
  exact matches_act f h.clock h.serial h.held? (alone_leave h f) hfresh hfresh.update c

theorem alone_gateOn (h : st.Alone id st') {gating gating' : Registry.Gating σ × σ}
    (hgating : gating'.1 = gating.1) (connection : Connection) (recipient : Address) :
    Matches (FilterState.Alone id) (gateOn id connection recipient gating st)
      (gateOn id connection recipient gating' st') :=
  matches_gateOn hgating ⟨h.config, h.clock, h.serial, h.sessions⟩ ..

theorem alone_receive (h : st.Alone id st') (ms : Nat) (config : Config) (ctx : CheckContext)
    (j : Judging σ) :
    Matches (FilterState.Alone id)
      (judgeOn id config ctx (receiveUntil ms j st).1 (receiveUntil ms j st).2)
      (judgeOn id config ctx (receiveUntil ms j st').1 (receiveUntil ms j st').2) :=
  matches_receive (fun _ _ => ⟨h.config, h.clock, h.serial, h.sessions⟩) ..

theorem alone_judge (hf : ∀ c ∈ f.registry.enabled, c.Memoryless) (h : st.Alone id st')
    (config : Config) (ctx : CheckContext) :
    Matches (FilterState.Alone id) (judge f id config ctx st) (judge f id config ctx st') := by
  have hstart : (Judging.start f.registry config ctx st'.clock st'.memory).1
      = (Judging.start f.registry config ctx st.clock st.memory).1 := by
    rw [h.clock]
    exact Judging.start_congr hf ..
  unfold judge
  generalize Judging.start f.registry config ctx st.clock st.memory = started at hstart
  generalize Judging.start f.registry config ctx st'.clock st'.memory = started' at hstart
  dsimp only
  have hstarted : ({ st with memory := started.2 } : FilterState σ).Alone id
      { st' with memory := started'.2 } :=
    ⟨h.config, h.clock, h.serial, h.sessions⟩
  rw [hstart]
  exact alone_receive hstarted ..

theorem alone_answerFailure (h : st.Alone id st') (stage : Stage) (e : Failure) :
    Matches (FilterState.Alone id) (answerFailure stage (some id) e st)
      (answerFailure stage (some id) e st') := by
  have hnoted : ({ st with metrics := st.metrics.noteFailure stage e.isViolation } :
      FilterState σ).Alone id
        { st' with metrics := st'.metrics.noteFailure stage e.isViolation } :=
    ⟨h.config, h.clock, h.serial, h.sessions⟩
  exact matches_answerFailure h.find? hnoted hnoted.update

theorem alone_answerInterruption (h : st.Alone id st') (stage : Stage) (reason : Interruption) :
    Matches (FilterState.Alone id) (answerInterruption stage (some id) st reason)
      (answerInterruption stage (some id) st' reason) := by
  cases reason with
  | failure e => exact alone_answerFailure h stage e
  | panic p =>
    have hnoted : ({ st with metrics := st.metrics.notePanic } : FilterState σ).Alone id
        { st' with metrics := st'.metrics.notePanic } :=
      ⟨h.config, h.clock, h.serial, h.sessions⟩
    have hpanics : st'.config.milter.propagatePanics = st.config.milter.propagatePanics := by
      rw [h.config]
    unfold answerInterruption
    dsimp only
    rw [hpanics]
    split
    · exact ⟨rfl, hnoted⟩
    · exact alone_answerFailure hnoted ..

/-- **A task of a session does the same whether or not there are other sessions**, in `st` and where the
session is `Alone`. -/
theorem alone_step (hf : ∀ c ∈ f.registry.enabled, c.Memoryless) (h : st.Alone id st')
    {task : Task σ} (hid : task.session? = some id) (hunasked : ∀ c ∈ task.unasked, c.Memoryless) :
    Matches (FilterState.Alone id) (step f st task) (step f st' task) := by
  cases task with
  | called i c =>
    obtain rfl : i = id := Option.some.inj hid
    exact alone_act h f c
  | asking i connection recipient =>
    obtain rfl : i = id := Option.some.inj hid
    exact alone_gateOn h (Registry.askFrom_congr hf ..) ..
  | gating i connection recipient outcome deferred rest =>
    obtain rfl : i = id := Option.some.inj hid
    exact alone_gateOn h (Registry.askOn_congr hunasked ..) ..
  | gated i connection recipient answer =>
    obtain rfl : i = id := Option.some.inj hid
    unfold step gated
    dsimp only
    split
    · exact alone_locked h ..
    · exact ⟨rfl, h⟩
  | complete i config ctx =>
    obtain rfl : i = id := Option.some.inj hid
    exact alone_judge hf h config ctx
  | judging i config ctx j =>
    obtain rfl : i = id := Option.some.inj hid
    exact alone_receive h ..
  | ruled r =>
    obtain rfl : r.session = id := Option.some.inj hid
    exact alone_locked h ..
  | concluded r record => exact ⟨rfl, h.config, h.clock, h.serial, h.sessions⟩
  | told r record => exact ⟨rfl, h.config, h.clock, h.serial, h.sessions⟩
  | interrupted stage i reason =>
    obtain rfl : i = some id := hid
    exact alone_answerInterruption h stage reason

theorem alone_overrideConfig (h : st.Alone id st') (config : Config) :
    (st.overrideConfig id config).Alone id (st'.overrideConfig id config) := by
  unfold FilterState.overrideConfig
  rw [h.find?]
  cases st.sessions.find? id with
  | none => exact h
  | some s => exact h.update _

/-! ### A task of another session -/

end Filter

/-- In `st'` the settings and the session `id` are as in `st`. -/
structure FilterState.Unmoved (id : Uuid) (st st' : FilterState σ) : Prop where
  config : st'.config = st.config
  sessions : st'.sessions.only id = st.sessions.only id

namespace Filter

variable {f : Filter σ} {id : Uuid}

theorem unmoved_locked {i : Uuid} (hi : i ≠ id) {β : Type} {change : Change Session β}
    (hchange : change.Keeps Session.client) (stage : Stage) (next : β → Progress σ)
    (st : FilterState σ) : st.Unmoved id (locked i stage change next st).2 := by
  cases hs : st.sessions.held? i with
  | none =>
    unfold locked changeHeld
    rw [hs]
    exact ⟨rfl, rfl⟩
  | some s =>
    have hkept : (change s).2.id = s.id := congrArg Prod.fst (hchange s)
    have hid : (change s).2.id ≠ id := by
      rw [hkept, SessionTable.id_of_held? hs]
      exact hi
    rw [locked_of_held hs]
    exact ⟨rfl, SessionTable.only_update_other hid st.sessions⟩

theorem unmoved_leave {i : Uuid} (hi : i ≠ id) (f : Filter σ) (st : FilterState σ) :
    st.Unmoved id (st.leave f i) where
  config := (leave_surroundings f i st).1
  sessions := by
    have hothers : ∀ s ∈ (st.sessions.remove i).1, s.id ≠ id := by
      intro s hs
      have hid : s.id = i := by simpa using (List.mem_filter.1 hs).2
      exact hid ▸ hi
    rw [(leave_keeps f i st).1]
    exact SessionTable.only_removeWhere_other hothers

/-- A session that is not pruned is left alone when others are: it stays `Unmoved`. -/
theorem unmoved_prune {now : Timestamp} {st : FilterState σ}
    (h : ∀ s ∈ (st.sessions.removeExpired f.maxAgeSecs now).1, s.id ≠ id) :
    st.Unmoved id (st.prune f now).2 where
  config := by
    have hevict : ∀ (st : FilterState σ) (s : Session), (st.evict f s).config = st.config :=
      fun _ _ => rfl
    exact foldl_keeps FilterState.config hevict _ _
  sessions := by
    rw [(prune_keeps f now st).1]
    exact SessionTable.only_removeWhere_other h

theorem unmoved_overrideConfig {i : Uuid} (hi : i ≠ id) (config : Config) (st : FilterState σ) :
    st.Unmoved id (st.overrideConfig i config) := by
  unfold FilterState.overrideConfig
  cases hs : st.sessions.find? i with
  | none => exact ⟨rfl, rfl⟩
  | some s =>
    have hid : s.id = i := by simpa using List.find?_some hs
    have hother : (s.overrideConfig config).id ≠ id := fun heq => hi (hid.symm.trans heq)
    exact ⟨rfl, SessionTable.only_update_other hother _⟩

theorem unmoved_answerFailure {session : Option Uuid} (hne : session ≠ some id) (stage : Stage)
    (e : Failure) (st : FilterState σ) : st.Unmoved id (answerFailure stage session e st).2 := by
  unfold answerFailure
  dsimp only
  cases hs : session.bind st.sessions.find? with
  | none => exact ⟨rfl, rfl⟩
  | some s =>
    obtain ⟨i, rfl, hs⟩ := Option.bind_eq_some_iff.1 hs
    have hid : s.fail.id ≠ id := by
      have heq : s.id = i := by simpa using List.find?_some hs
      exact fun hfail => hne (congrArg some (heq.symm.trans hfail))
    dsimp only
    split
    · exact ⟨rfl, SessionTable.only_update_other hid _⟩
    · exact ⟨rfl, rfl⟩

/-- While a message is judged with `judgeOn`, no session is changed and no record is handed over. -/
theorem judgeOn_keeps (id i : Uuid) (config : Config) (ctx : CheckContext) (j : Judging σ)
    (st : FilterState σ) :
    st.Unmoved id (judgeOn i config ctx j st).2 ∧
      (judgeOn i config ctx j st).2.queue = st.queue := by
  unfold judgeOn
  split <;> exact ⟨⟨rfl, rfl⟩, rfl⟩

theorem judge_keeps (f : Filter σ) (id i : Uuid) (config : Config) (ctx : CheckContext)
    (st : FilterState σ) :
    st.Unmoved id (judge f i config ctx st).2 ∧ (judge f i config ctx st).2.queue = st.queue := by
  generalize hstart : Judging.start f.registry config ctx st.clock st.memory = started
  obtain ⟨hmoved, hqueue⟩ := judgeOn_keeps id i config ctx
    (receiveUntil 0 started.1 { st with memory := started.2 }).1
    (receiveUntil 0 started.1 { st with memory := started.2 }).2
  rw [judge, hstart]
  exact ⟨⟨hmoved.config, hmoved.sessions⟩, hqueue⟩

/-- A task leaves the sessions alone that are not its `session?`. -/
theorem unmoved_step {task : Task σ} (hne : task.session? ≠ some id) (st : FilterState σ) :
    st.Unmoved id (step f st task).2 := by
  have hother : ∀ i, task.session? = some i → i ≠ id := fun i hi heq =>
    hne (hi.trans (congrArg some heq))
  cases task with
  | called i c =>
    have hi := hother i rfl
    show st.Unmoved id (act f i c st).2
    by_cases hc : c = .close
    · subst hc
      exact unmoved_leave hi f st
    · -- a change to a session keeps its client, and the table has the other sessions as they were
      have hkeeps : ((c.change (Uuid.issued st.serial) st.clock).andThen
          (Change.look fun s => s)).Keeps Session.client :=
        (c.keeps_change _ _).andThen fun _ => rfl
      have hmoved := unmoved_locked hi hkeeps c.stage (fun s => follow s c) st.fresh.2
      rw [act_eq f i hc]
      exact ⟨hmoved.config, hmoved.sessions⟩
  | asking i connection recipient | gating i connection recipient outcome deferred rest =>
    unfold step gateOn
    dsimp only
    split <;> exact ⟨rfl, rfl⟩
  | gated i connection recipient answer =>
    unfold step gated
    dsimp only
    split
    · exact unmoved_locked (hother i rfl) (SessionChange.keeps_changeCurrent _ _) ..
    · exact ⟨rfl, rfl⟩
  | complete i config ctx => exact (judge_keeps f id i config ctx st).1
  | judging i config ctx j =>
    obtain ⟨hmoved, -⟩ := judgeOn_keeps id i config ctx
      (receiveUntil ((j.pending.head?.map (·.atMs)).getD j.elapsedMs) j st).1
      (receiveUntil ((j.pending.head?.map (·.atMs)).getD j.elapsedMs) j st).2
    exact ⟨hmoved.config, hmoved.sessions⟩
  | ruled r => exact unmoved_locked (hother r.session rfl) (SessionChange.keeps_changeCurrent _ _) ..
  | concluded r record => exact ⟨rfl, rfl⟩
  | told r record => exact ⟨rfl, rfl⟩
  | interrupted stage session reason =>
    cases reason with
    | failure e => exact unmoved_answerFailure hne stage e st
    | panic p =>
      unfold step answerInterruption
      dsimp only
      split
      · exact ⟨rfl, rfl⟩
      · have hmoved := unmoved_answerFailure hne stage (.panicked p.reason)
          { st with metrics := st.metrics.notePanic }
        exact ⟨hmoved.config, hmoved.sessions⟩

/-! ### Checkers still to be asked -/

end Filter

/-- The checkers that a callback may still put its recipient to: those of its task. -/
def Progress.unasked (p : Progress σ) : List (Checker σ) :=
  (p.task?.map Task.unasked).getD []

namespace Filter

variable {f : Filter σ}

theorem unasked_locked {β : Type} {next : β → Progress σ} (hnext : ∀ b, (next b).unasked = [])
    (id : Uuid) (stage : Stage) (change : Change Session β) (st : FilterState σ) :
    (locked id stage change next st).1.unasked = [] := by
  unfold locked
  split
  · exact hnext _
  · rfl

theorem unasked_gateOn {cs : List (Checker σ)} {gating : Registry.Gating σ × σ}
    (h : ∀ ms outcome deferred rest, gating.1 = .waiting ms outcome deferred rest → rest <:+ cs)
    (id : Uuid) (connection : Connection) (recipient : Address) (st : FilterState σ) :
    (gateOn id connection recipient gating st).1.unasked <:+ cs := by
  unfold gateOn
  split
  · exact List.nil_suffix
  · exact List.nil_suffix
  · next hw => exact h _ _ _ _ hw

theorem unasked_follow (s : Session) (c : Callback) : (follow s c : Progress σ).unasked = [] := by
  unfold follow
  split
  · rfl
  · split <;> rfl
  · rfl

theorem unasked_judgeOn (id : Uuid) (config : Config) (ctx : CheckContext) (j : Judging σ)
    (st : FilterState σ) : (judgeOn id config ctx j st).1.unasked = [] := by
  unfold judgeOn
  split <;> rfl

/-- Recipients are put to the enabled checkers and to no others: all that are `unasked` are enabled. -/
theorem unasked_step {task : Task σ} (h : ∀ c ∈ task.unasked, c ∈ f.registry.enabled)
    (st : FilterState σ) : ∀ c ∈ (step f st task).1.unasked, c ∈ f.registry.enabled := by
  have hnone : (step f st task).1.unasked = [] →
      ∀ c ∈ (step f st task).1.unasked, c ∈ f.registry.enabled := by
    intro hnil c hc
    rw [hnil] at hc
    cases hc
  -- only the two questions lead to a task that has checkers left, and these are a part of those
  -- before
  cases task with
  | called id c =>
    refine hnone ?_
    show (act f id c st).1.unasked = []
    by_cases hc : c = .close
    · subst hc
      rfl
    · rw [act_eq f id hc]
      exact unasked_locked (fun s => unasked_follow s c) ..
  | asking id connection recipient =>
    exact fun c hc => (unasked_gateOn (fun _ _ _ _ => Registry.askFrom_suffix) id connection
      recipient st).subset hc
  | gating id connection recipient outcome deferred rest =>
    exact fun c hc => h c ((unasked_gateOn (fun _ _ _ _ => Registry.askOn_suffix) id connection
      recipient st).subset hc)
  | gated id connection recipient answer =>
    refine hnone ?_
    unfold step gated
    dsimp only
    split
    · exact unasked_locked (fun _ => rfl) ..
    · rfl
  | complete id config ctx => exact hnone (unasked_judgeOn ..)
  | judging id config ctx j => exact hnone (unasked_judgeOn ..)
  | ruled r => exact hnone (unasked_locked (fun _ => rfl) ..)
  | concluded r record => exact hnone rfl
  | told r record => exact hnone rfl
  | interrupted stage session reason =>
    refine hnone ?_
    obtain ⟨outcome, hdone⟩ := done_of_answerInterruption stage session st reason
    rw [step, hdone]
    rfl

/-! ### Records -/

end Filter

/-- The records that a task hands to the queue in the state `st`. -/
def Task.hands (st : FilterState σ) : Task σ → List Record
  | called id .close =>
    (st.sessions.remove id).1.map fun s => .session (s.toRecord st.clock false)
  | told _ record => [.message record]
  | _ => []

namespace Filter

variable {f : Filter σ} {id : Uuid} {st st' : FilterState σ}

theorem queue_finish (f : Filter σ) (removed : List Session) (st : FilterState σ) :
    (removed.foldl (FilterState.finish f false) st).queue
      = (removed.map fun s => Record.session (s.toRecord st.clock false)).foldl Queue.enqueue
        st.queue := by
  induction removed generalizing st with
  | nil => rfl
  | cons s rest ih => exact ih (st.finish f false s)

theorem queue_locked {β : Type} (id : Uuid) (stage : Stage) (change : Change Session β)
    (next : β → Progress σ) (st : FilterState σ) :
    (locked id stage change next st).2.queue = st.queue := by
  unfold locked changeHeld
  cases st.sessions.held? id with
  | none => rfl
  | some s =>
    dsimp only
    rcases change s with ⟨_ | _, s'⟩ <;> rfl

theorem queue_answerFailure (stage : Stage) (session : Option Uuid) (e : Failure)
    (st : FilterState σ) : (answerFailure stage session e st).2.queue = st.queue := by
  unfold answerFailure
  dsimp only
  split
  · split <;> rfl
  · rfl

/-- A task `hands` these records to the queue and no others. -/
theorem queue_step (f : Filter σ) (st : FilterState σ) (task : Task σ) :
    (step f st task).2.queue = (task.hands st).foldl Queue.enqueue st.queue := by
  cases task with
  | called i c =>
    show (act f i c st).2.queue = _
    by_cases hc : c = .close
    · subst hc
      exact queue_finish f _ { st with sessions := (st.sessions.remove i).2 }
    · have hhands : (Task.called i c : Task σ).hands st = [] := by
        cases c <;> first | rfl | exact absurd rfl hc
      rw [hhands, act_eq f i hc]
      exact queue_locked ..
  | asking i connection recipient | gating i connection recipient outcome deferred rest =>
    unfold step gateOn
    dsimp only
    split <;> rfl
  | gated i connection recipient answer =>
    unfold step gated
    dsimp only
    split
    · exact queue_locked ..
    · rfl
  | complete i config ctx => exact (judge_keeps f i i config ctx st).2
  | judging i config ctx j => exact (judgeOn_keeps i i config ctx _ _).2
  | ruled r => exact queue_locked ..
  | concluded r record | told r record => rfl
  | interrupted stage session reason =>
    cases reason with
    | failure e => exact queue_answerFailure ..
    | panic p =>
      unfold step answerInterruption
      dsimp only
      split
      · rfl
      · exact queue_answerFailure ..

/-- A task of a session `hands` over the same records whether or not there are other sessions. -/
theorem hands_alone (h : st.Alone id st') {task : Task σ} (hid : task.session? = some id) :
    task.hands st' = task.hands st := by
  cases task with
  | called i c =>
    obtain rfl : i = id := Option.some.inj hid
    cases c with
    | close =>
      show (st'.sessions.remove i).1.map (fun s => Record.session (s.toRecord st'.clock false)) = _
      rw [h.sessions, ← (SessionTable.only_remove st.sessions i).1, h.clock]
      rfl
    | _ => rfl
  | _ => rfl

end Filter

end MailFilter
