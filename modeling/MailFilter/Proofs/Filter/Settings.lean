/-
The settings of now, and what depends on them.

A session has settings of its own from when it connects. The settings of now are asked for in two
places besides: when a session connects, and when a panic has to be answered. So two states that differ
in them, and in what has been counted, stay like that whatever is done to both.

* `alike_step`: a task does the same in both states, except that a panic is let out as the settings of
  now say.
-/
import MailFilter.Filter.Run
import MailFilter.Proofs.Filter.Matching

namespace MailFilter

variable {σ : Type}

/-- The states differ in the settings of now and in the metrics at most. -/
structure FilterState.Alike (st st' : FilterState σ) : Prop where
  clock : st'.clock = st.clock
  serial : st'.serial = st.serial
  sessions : st'.sessions = st.sessions
  memory : st'.memory = st.memory
  queue : st'.queue = st.queue
  followUps : st'.followUps = st.followUps

namespace FilterState.Alike

variable {f : Filter σ} {st st' : FilterState σ}

theorem refl (st : FilterState σ) : st.Alike st := ⟨rfl, rfl, rfl, rfl, rfl, rfl⟩

theorem symm (h : st.Alike st') : st'.Alike st :=
  ⟨h.1.symm, h.2.symm, h.3.symm, h.4.symm, h.5.symm, h.6.symm⟩

theorem trans {st'' : FilterState σ} (h : st.Alike st') (h' : st'.Alike st'') : st.Alike st'' :=
  ⟨h'.1.trans h.1, h'.2.trans h.2, h'.3.trans h.3, h'.4.trans h.4, h'.5.trans h.5,
    h'.6.trans h.6⟩

theorem update (h : st.Alike st') (s : Session) : (st.update s).Alike (st'.update s) where
  clock := h.clock
  serial := h.serial
  sessions := congrArg (SessionTable.update · s) h.sessions
  memory := h.memory
  queue := h.queue
  followUps := h.followUps

theorem settle (h : st.Alike st') (f : Filter σ) : (st.settle f).Alike (st'.settle f) where
  clock := h.clock
  serial := h.serial
  sessions := h.sessions
  memory := by
    show st'.followUps.foldl (f.registry.tell st'.clock) st'.memory
      = st.followUps.foldl (f.registry.tell st.clock) st.memory
    rw [h.followUps, h.clock, h.memory]
  queue := congrArg (Queue.drain Store.saving) h.queue
  followUps := rfl

/-- A session that has been removed ends in both states, by `finish`. -/
theorem finish (h : st.Alike st') (f : Filter σ) (pruned : Bool) (s : Session) :
    (st.finish f pruned s).Alike (st'.finish f pruned s) where
  clock := h.clock
  serial := h.serial
  sessions := h.sessions
  memory := by
    show f.registry.sessionEnded (s.toRecord st'.clock pruned) st'.memory
      = f.registry.sessionEnded (s.toRecord st.clock pruned) st.memory
    rw [h.clock, h.memory]
  queue := by
    show st'.queue.enqueue (.session (s.toRecord st'.clock pruned))
      = st.queue.enqueue (.session (s.toRecord st.clock pruned))
    rw [h.clock, h.queue]
  followUps := h.followUps

theorem foldl {g : FilterState σ → Session → FilterState σ}
    (hg : ∀ st st' s, st.Alike st' → (g st s).Alike (g st' s)) (h : st.Alike st')
    (removed : List Session) : (removed.foldl g st).Alike (removed.foldl g st') := by
  induction removed generalizing st st' with
  | nil => exact h
  | cons s rest ih => exact ih (hg st st' s h)

theorem withMetrics (h : st.Alike st') (metrics metrics' : Metrics) :
    ({ st with metrics } : FilterState σ).Alike { st' with metrics := metrics' } :=
  ⟨h.clock, h.serial, h.sessions, h.memory, h.queue, h.followUps⟩

theorem withSessions (h : st.Alike st') (sessions : SessionTable) :
    ({ st with sessions } : FilterState σ).Alike { st' with sessions } :=
  ⟨h.clock, h.serial, rfl, h.memory, h.queue, h.followUps⟩

theorem leave (h : st.Alike st') (f : Filter σ) (id : Uuid) :
    (st.leave f id).Alike (st'.leave f id) := by
  unfold FilterState.leave
  rw [h.sessions]
  exact foldl (fun _ _ s hs => hs.finish f false s) (h.withSessions _) _

theorem prune (h : st.Alike st') (f : Filter σ) (now : Timestamp) :
    (st.prune f now).2.Alike (st'.prune f now).2 := by
  have hevict : ∀ (st st' : FilterState σ) (s : Session), st.Alike st' →
      (st.evict f s).Alike (st'.evict f s) := by
    intro st st' s hs
    exact (hs.withMetrics ..).finish f true s
  unfold FilterState.prune
  rw [h.sessions]
  exact foldl hevict (h.withSessions _) _

theorem overrideConfig (h : st.Alike st') (id : Uuid) (config : Config) :
    (st.overrideConfig id config).Alike (st'.overrideConfig id config) := by
  unfold FilterState.overrideConfig
  rw [h.sessions]
  cases st.sessions.find? id with
  | none => exact h
  | some s => exact h.update _

/-- A session that connects gets the settings of now, which are the same by `hconfig`. -/
theorem connect (h : st.Alike st') (hconfig : st'.config = st.config) (ip : Option Ip)
    (port : Option Nat) (reverseDns : Option String) :
    (st.connect ip port reverseDns).2.Alike (st'.connect ip port reverseDns).2 where
  clock := h.clock
  serial := congrArg (· + 1) h.serial
  sessions := by
    show st'.sessions.insert (Session.new (Uuid.issued st'.serial) st'.config st'.clock ..) = _
    rw [h.sessions, h.serial, h.clock, hconfig]
    rfl
  memory := h.memory
  queue := h.queue
  followUps := h.followUps

end FilterState.Alike

namespace Filter

variable {f : Filter σ} {st st' : FilterState σ}

theorem alike_locked (h : st.Alike st') (id : Uuid) {β : Type} (stage : Stage)
    (change : Change Session β) (next : β → Progress σ) :
    Matches FilterState.Alike (locked id stage change next st) (locked id stage change next st') :=
  matches_locked h (by rw [h.sessions]) h.update ..

theorem alike_act (h : st.Alike st') (f : Filter σ) (id : Uuid) (c : Callback) :
    Matches FilterState.Alike (act f id c st) (act f id c st') := by
  have hfresh : st.fresh.2.Alike st'.fresh.2 :=
    ⟨h.clock, congrArg (· + 1) h.serial, h.sessions, h.memory, h.queue, h.followUps⟩
  exact matches_act f h.clock h.serial (by rw [h.sessions]) (h.leave f id) hfresh hfresh.update c

theorem alike_gateOn (h : st.Alike st') (id : Uuid) (connection : Connection)
    (recipient : Address) (gating : Registry.Gating σ × σ) :
    Matches FilterState.Alike (gateOn id connection recipient gating st)
      (gateOn id connection recipient gating st') := by
  have hmemory : ({ st with memory := gating.2 } : FilterState σ).Alike
      { st' with memory := gating.2 } :=
    ⟨h.clock, h.serial, h.sessions, rfl, h.queue, h.followUps⟩
  exact matches_gateOn rfl hmemory ..

/-- What arrives is taken in by `receiveUntil` whatever has been measured. -/
theorem alike_receive (h : st.Alike st') (ms : Nat) (id : Uuid) (config : Config)
    (ctx : CheckContext) (j : Judging σ) :
    Matches FilterState.Alike
      (judgeOn id config ctx (receiveUntil ms j st).1 (receiveUntil ms j st).2)
      (judgeOn id config ctx (receiveUntil ms j st').1 (receiveUntil ms j st').2) := by
  have hmemory : (receiveUntil ms j st').2.memory = (receiveUntil ms j st).2.memory := by
    show (Judging.receiveWhile _ j st'.metrics st'.memory).2.2
      = (Judging.receiveWhile _ j st.metrics st.memory).2.2
    rw [h.memory]
    exact Judging.receiveWhile_memory ..
  exact matches_receive
    (fun _ _ => ⟨h.clock, h.serial, h.sessions, hmemory, h.queue, h.followUps⟩) ..

theorem alike_judge (h : st.Alike st') (f : Filter σ) (id : Uuid) (config : Config)
    (ctx : CheckContext) :
    Matches FilterState.Alike (judge f id config ctx st) (judge f id config ctx st') := by
  have hstart : Judging.start f.registry config ctx st'.clock st'.memory
      = Judging.start f.registry config ctx st.clock st.memory := by
    rw [h.clock, h.memory]
  unfold judge
  rw [hstart]
  generalize Judging.start f.registry config ctx st.clock st.memory = started
  have hstarted : ({ st with memory := started.2 } : FilterState σ).Alike
      { st' with memory := started.2 } :=
    ⟨h.clock, h.serial, h.sessions, rfl, h.queue, h.followUps⟩
  exact alike_receive hstarted ..

theorem alike_failed (h : st.Alike st') (stage : Stage) (session : Option Uuid) (e : Failure) :
    Matches FilterState.Alike (answerFailure stage session e st)
      (answerFailure stage session e st') :=
  matches_answerFailure (by rw [h.sessions]) (h.withMetrics ..) (h.withMetrics ..).update

/-- A failure that the session survives leaves the state `Alike`. -/
theorem alike_answerFailure {e : Failure} (he : e.isFatal = false) (stage : Stage)
    (id : Option Uuid) (st : FilterState σ) : st.Alike (answerFailure stage id e st).2 := by
  unfold answerFailure
  dsimp only
  rw [he]
  cases id.bind st.sessions.find? with
  | none => exact ⟨rfl, rfl, rfl, rfl, rfl, rfl⟩
  | some s => exact ⟨rfl, rfl, rfl, rfl, rfl, rfl⟩

/-- A failure is answered by `answerFailure`, so a panic that is let out is told from one
that is not. -/
theorem answerFailure_ne_panic (stage : Stage) (id : Option Uuid) (e : Failure)
    (st : FilterState σ) (p : Panic) : (answerFailure stage id e st).1 ≠ .done (.error p) := by
  unfold answerFailure
  dsimp only
  cases id.bind st.sessions.find? with
  | none => rintro ⟨⟩
  | some s => rintro ⟨⟩

/-- A panic is answered the same way in states that are `Alike` just if their settings agree on whether
panics are let out; either way the callback is over. -/
theorem alike_panicked (h : st.Alike st') (f : Filter σ) (stage : Stage) (id : Option Uuid)
    (p : Panic) :
    (step f st (.interrupted stage id (.panic p))).2.Alike
        (step f st' (.interrupted stage id (.panic p))).2 ∧
      ((step f st' (.interrupted stage id (.panic p))).1
          = (step f st (.interrupted stage id (.panic p))).1 ∨
        ((step f st (.interrupted stage id (.panic p))).1.task? = none ∧
          (step f st' (.interrupted stage id (.panic p))).1.task? = none)) ∧
      ((step f st' (.interrupted stage id (.panic p))).1
          = (step f st (.interrupted stage id (.panic p))).1 ↔
        st'.config.milter.propagatePanics = st.config.milter.propagatePanics) := by
  have hnoted := h.withMetrics st.metrics.notePanic st'.metrics.notePanic
  obtain ⟨hanswer, halike⟩ := alike_failed hnoted stage id (.panicked p.reason)
  have hkept : ∀ st : FilterState σ,
      st.Alike (answerFailure stage id (.panicked p.reason) st).2 :=
    alike_answerFailure rfl stage id
  have hover : ∀ st : FilterState σ,
      (answerFailure stage id (.panicked p.reason) st).1.task? = none := by
    intro st
    obtain ⟨outcome, hdone⟩ := done_of_answerFailure stage id (.panicked p.reason) st
    rw [hdone]
    rfl
  have hstep : ∀ st : FilterState σ, step f st (.interrupted stage id (.panic p))
      = if st.config.milter.propagatePanics = true then
          (.done (.error p), { st with metrics := st.metrics.notePanic })
        else answerFailure stage id (.panicked p.reason)
          { st with metrics := st.metrics.notePanic } := fun _ => rfl
  simp only [hstep]
  -- the panic is let out in both states, in neither, or in one of them
  cases st.config.milter.propagatePanics <;> cases st'.config.milter.propagatePanics
  · exact ⟨halike, .inl hanswer, fun _ => rfl, fun _ => hanswer⟩
  · refine ⟨(hkept _).symm.trans hnoted, .inr ⟨hover _, rfl⟩, fun heq => ?_, by rintro ⟨⟩⟩
    exact (answerFailure_ne_panic stage id _ _ p heq.symm).elim
  · refine ⟨hnoted.trans (hkept _), .inr ⟨rfl, hover _⟩, fun heq => ?_, by rintro ⟨⟩⟩
    exact (answerFailure_ne_panic stage id _ _ p heq).elim
  · exact ⟨hnoted, .inl rfl, fun _ => rfl, fun _ => rfl⟩

/-- **A task goes the same way in states that are `Alike`**, unless it answers for a panic and the
settings of now disagree on whether panics are let out. -/
theorem alike_step (h : st.Alike st') (f : Filter σ) (task : Task σ) :
    (step f st task).2.Alike (step f st' task).2 ∧
      ((step f st' task).1 = (step f st task).1 ∨
        ((step f st task).1.task? = none ∧ (step f st' task).1.task? = none)) ∧
      ((step f st' task).1 = (step f st task).1 ↔ (task.isPanic = true →
        st'.config.milter.propagatePanics = st.config.milter.propagatePanics)) := by
  have hsame : Matches FilterState.Alike (step f st task) (step f st' task) → task.isPanic = false →
      (step f st task).2.Alike (step f st' task).2 ∧
        ((step f st' task).1 = (step f st task).1 ∨
        ((step f st task).1.task? = none ∧ (step f st' task).1.task? = none)) ∧
        ((step f st' task).1 = (step f st task).1 ↔ (task.isPanic = true →
          st'.config.milter.propagatePanics = st.config.milter.propagatePanics)) := by
    intro hmatches hcalm
    refine ⟨hmatches.2, .inl hmatches.1, fun _ hpanic => ?_, fun _ => hmatches.1⟩
    rw [hcalm] at hpanic
    cases hpanic
  cases task with
  | called id c => exact hsame (alike_act h f id c) rfl
  | asking id connection recipient =>
    refine hsame ?_ rfl
    unfold step
    rw [h.memory]
    exact alike_gateOn h ..
  | gating id connection recipient outcome deferred rest =>
    refine hsame ?_ rfl
    unfold step
    rw [h.memory]
    exact alike_gateOn h ..
  | gated id connection recipient answer =>
    refine hsame ?_ rfl
    unfold step gated
    dsimp only
    split
    · exact alike_locked h ..
    · exact ⟨rfl, h⟩
  | complete id config ctx => exact hsame (alike_judge h f id config ctx) rfl
  | judging id config ctx j => exact hsame (alike_receive h ..) rfl
  | ruled r => exact hsame (alike_locked h ..) rfl
  | concluded r record =>
    exact hsame ⟨rfl, h.1, h.2, h.3, h.4, h.5, congrArg (· ++ _) h.6⟩ rfl
  | told r record =>
    exact hsame ⟨rfl, h.1, h.2, h.3, h.4, congrArg (Queue.enqueue · _) h.5, h.6⟩ rfl
  | interrupted stage id reason =>
    cases reason with
    | failure e => exact hsame (alike_failed h stage id e) rfl
    | panic p =>
      obtain ⟨halike, hway, hagree⟩ := alike_panicked h f stage id p
      exact ⟨halike, hway, fun heq _ => hagree.1 heq, fun hsame => hagree.2 (hsame rfl)⟩

end Filter

end MailFilter
