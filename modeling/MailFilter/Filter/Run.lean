/-
Callbacks run to their end.

`Filter.rank_lt_of_step` bounds how many tasks a callback carries out at once, and
`Filter.remaining_lt_of_resume` how often it waits: once for each checker that it still has to hear
from.
-/
import MailFilter.Filter.Callback

namespace MailFilter

variable {σ : Type}

/-- How many tasks may follow one another without waiting, by `precedes_step`. -/
def Task.rank : Task σ → Nat
  | .called .. => 4
  | .complete .. | .judging .. => 3
  | .asking .. | .gating .. | .ruled _ => 2
  | .gated .. | .concluded .. => 1
  | .told .. | .interrupted .. => 0

/-- How many tasks a callback may carry out at once: `goOn` ends because it falls. -/
def Progress.rank : Progress σ → Nat
  | .next task => task.rank + 1
  | .done _ | .waiting _ _ => 0

/-- For how many answers of checkers a callback may still have to wait: `finish` ends
because it falls. -/
def Task.remaining (f : Filter σ) : Task σ → Nat
  | .called .. => f.registry.enabled.length + 2
  | .asking .. | .complete .. => f.registry.enabled.length + 1
  | .gating _ _ _ _ _ rest => rest.length
  | .judging _ _ _ j => j.pending.length
  | .gated .. | .ruled _ | .concluded .. | .told .. | .interrupted .. => 0

/-! ### Fewer and fewer answers -/

theorem Registry.askFrom_waiting {connection : Connection} {recipient : Address}
    {deferred deferred' : Option RecipientVerdict} {cs rest : List (Checker σ)} {s : σ} {ms : Nat}
    {outcome : GateOutcome}
    (h : (askFrom connection recipient deferred cs s).1 = .waiting ms outcome deferred' rest) :
    rest.length < cs.length := by
  induction cs generalizing deferred s with
  | nil => simp [askFrom] at h
  | cons c cs ih =>
    simp only [askFrom] at h
    split at h
    · split at h
      · simp at h
      · split at h
        · simp at h
        · exact Nat.lt_succ_of_lt (ih h)
    · simp only [Gating.waiting.injEq] at h
      simp [← h.2.2.2]

theorem Registry.askOn_waiting {connection : Connection} {recipient : Address}
    {deferred deferred' : Option RecipientVerdict} {cs rest : List (Checker σ)} {s : σ} {ms : Nat}
    {outcome outcome' : GateOutcome}
    (h : (askOn connection recipient outcome deferred cs s).1 = .waiting ms outcome' deferred' rest) :
    rest.length < cs.length := by
  unfold askOn at h
  split at h
  · simp at h
  · split at h
    · simp at h
    · exact askFrom_waiting h

theorem Judging.length_pending_receiveWhile_le (p : Arrival σ → Bool) (j : Judging σ) (m : Metrics)
    (s : σ) : (receiveWhile p j m s).1.pending.length ≤ j.pending.length := by
  fun_induction receiveWhile p j m s with
  | case1 => exact Nat.le_refl _
  | case2 j m s a rest h _ next ih =>
    have := length_pending_receive_le a { j with pending := rest } m s
    simp only [h, List.length_cons]
    exact Nat.le_succ_of_le (Nat.le_trans ih this)
  | case3 => exact Nat.le_refl _

theorem Judging.length_pending_receiveWhile_lt {p : Arrival σ → Bool} {j : Judging σ} {m : Metrics}
    {s : σ} {a : Arrival σ} {rest : List (Arrival σ)} (h : j.pending = a :: rest) (hp : p a = true) :
    (receiveWhile p j m s).1.pending.length < j.pending.length := by
  rw [receiveWhile]
  split
  · simp_all
  · rename_i b rest' hb
    obtain ⟨rfl, rfl⟩ : b = a ∧ rest' = rest := by simpa [h] using hb.symm
    simp only [hp, if_true]
    refine Nat.lt_of_le_of_lt (length_pending_receiveWhile_le ..) ?_
    refine Nat.lt_of_le_of_lt (length_pending_receive_le ..) ?_
    simp [h]

theorem Judging.length_startAll (config : Config) (ctx : CheckContext) (now : Timestamp) (place : Nat)
    (cs : List (Checker σ)) (s : σ) :
    (startAll config ctx now place cs s).1.length = cs.length := by
  induction cs generalizing place s with
  | nil => rfl
  | cons c cs ih => simp [startAll, ih]

theorem Judging.length_pending_start (registry : Registry σ) (config : Config) (ctx : CheckContext)
    (now : Timestamp) (s : σ) :
    (start registry config ctx now s).1.pending.length = registry.enabled.length := by
  simp [start, length_startAll]

/-! ### What follows a task -/

/-- What may follow a task: one of a lower `rank` at once, or one that waits for fewer answers, by
`remaining`. -/
def Task.Precedes (f : Filter σ) (task : Task σ) : Progress σ → Prop
  | .done _ => True
  | .next t => t.rank < task.rank ∧ t.remaining f ≤ task.remaining f
  | .waiting _ t => t.remaining f < task.remaining f

namespace Filter

theorem precedes_failed {f : Filter σ} {task : Task σ} (h : 0 < task.rank) (stage : Stage)
    (id : Option Uuid) (e : Failure) : task.Precedes f (.failed stage id e) :=
  ⟨h, Nat.zero_le _⟩

theorem precedes_locked {f : Filter σ} {task : Task σ} {β : Type} (id : Uuid) (stage : Stage)
    (change : Change Session β) {next : β → Progress σ} (st : FilterState σ) (h : 0 < task.rank)
    (hnext : ∀ b, task.Precedes f (next b)) :
    task.Precedes f (locked id stage change next st).1 := by
  rw [locked]
  split
  · exact hnext _
  · exact precedes_failed h ..

theorem precedes_follow {f : Filter σ} (id : Uuid) (s : Session) (c : Callback) :
    (Task.called id c).Precedes f (follow s c) := by
  unfold follow
  split
  · exact ⟨by simp [Task.rank], Nat.le_succ _⟩
  · split
    · exact ⟨by simp [Task.rank], Nat.le_succ _⟩
    · exact precedes_failed (by simp [Task.rank]) ..
  · trivial

theorem precedes_gateOn {f : Filter σ} {task : Task σ} (id : Uuid) (connection : Connection)
    (recipient : Address) {gating : Registry.Gating σ × σ} (st : FilterState σ)
    (h : 1 < task.rank)
    (hrest : ∀ ms outcome deferred rest, gating.1 = .waiting ms outcome deferred rest →
      rest.length < task.remaining f) :
    task.Precedes f (gateOn id connection recipient gating st).1 := by
  unfold gateOn
  split
  · exact ⟨h, Nat.zero_le _⟩
  · exact ⟨Nat.lt_of_succ_lt h, Nat.zero_le _⟩
  · next hw => exact hrest _ _ _ _ hw

theorem precedes_judgeOn {f : Filter σ} {task : Task σ} (id : Uuid) (config : Config)
    (ctx : CheckContext) {j : Judging σ} (st : FilterState σ) (h : 2 < task.rank)
    (hj : j.waitMs? ≠ none → j.pending.length < task.remaining f) :
    task.Precedes f (judgeOn id config ctx j st).1 := by
  unfold judgeOn
  split
  · next hw => exact hj (by simp [hw])
  · exact ⟨h, Nat.zero_le _⟩

theorem done_of_answerFailure (stage : Stage) (id : Option Uuid) (e : Failure)
    (st : FilterState σ) : ∃ outcome, (answerFailure stage id e st).1 = .done outcome := by
  unfold answerFailure
  simp only
  cases id.bind st.sessions.find? <;> exact ⟨_, rfl⟩

theorem done_of_answerInterruption (stage : Stage) (id : Option Uuid) (st : FilterState σ)
    (reason : Interruption) : ∃ outcome, (answerInterruption stage id st reason).1 = .done outcome := by
  unfold answerInterruption
  split
  · exact done_of_answerFailure ..
  · dsimp only
    split
    · exact ⟨_, rfl⟩
    · exact done_of_answerFailure ..

/-- Judging that still waits after the next arrival, `receiveUntil` its time, waits for fewer. -/
theorem length_pending_receiveUntil_lt {ms : Nat} {j : Judging σ} {st : FilterState σ}
    (hms : ∀ a ∈ j.pending.head?, a.atMs ≤ ms) (h : (receiveUntil ms j st).1.waitMs? ≠ none) :
    (receiveUntil ms j st).1.pending.length < j.pending.length := by
  cases hp : j.pending with
  | nil =>
    have hle : (receiveUntil ms j st).1.pending.length ≤ j.pending.length :=
      Judging.length_pending_receiveWhile_le ..
    rw [hp, List.length_nil, Nat.le_zero_eq, List.length_eq_zero_iff] at hle
    simp [Judging.waitMs?, hle] at h
  | cons a rest =>
    rw [← hp]
    exact Judging.length_pending_receiveWhile_lt hp (by simpa [hp] using hms)

/-- Every task `Precedes` what `step` goes on with: a task of a lower rank, or one that waits for fewer
answers. -/
theorem precedes_step (f : Filter σ) (st : FilterState σ) (task : Task σ) :
    task.Precedes f (step f st task).1 := by
  cases task with
  | called id c =>
    show (Task.called id c).Precedes f (act f id c st).1
    unfold act
    split
    · trivial
    · exact precedes_locked _ _ _ _ (by simp [Task.rank]) fun s => precedes_follow ..
  | asking id connection recipient =>
    exact precedes_gateOn _ _ _ _ (by simp [Task.rank]) fun _ _ _ _ h =>
      Nat.lt_succ_of_lt (Registry.askFrom_waiting h)
  | gating id connection recipient outcome deferred rest =>
    exact precedes_gateOn _ _ _ _ (by simp [Task.rank]) fun _ _ _ _ h => Registry.askOn_waiting h
  | gated id connection recipient v =>
    show (Task.gated id connection recipient v).Precedes f
      (gated id connection recipient v st).1
    unfold gated
    dsimp only
    split
    · exact precedes_locked _ _ _ _ (by simp [Task.rank]) fun _ => trivial
    · trivial
  | complete id config ctx =>
    refine precedes_judgeOn _ _ _ _ (by simp [Task.rank]) fun _ => Nat.lt_succ_of_le ?_
    refine Nat.le_trans (Judging.length_pending_receiveWhile_le ..) ?_
    exact Nat.le_of_eq (Judging.length_pending_start ..)
  | judging id config ctx j =>
    refine precedes_judgeOn _ _ _ _ (by simp [Task.rank])
      (length_pending_receiveUntil_lt fun a ha => ?_)
    rw [Option.mem_def] at ha
    simp [ha]
  | ruled r => exact precedes_locked _ _ _ _ (by simp [Task.rank]) fun _ => ⟨by simp [Task.rank], Nat.zero_le _⟩
  | concluded r record => exact ⟨by simp [Task.rank], Nat.zero_le _⟩
  | told r record => trivial
  | interrupted stage id reason =>
    obtain ⟨outcome, h⟩ := done_of_answerInterruption stage id st reason
    rw [step, h]
    trivial

/-- A task that follows at once has a lower rank. -/
theorem rank_lt_of_step {f : Filter σ} {st : FilterState σ} {task task' : Task σ}
    (h : (step f st task).1 = .next task') : task'.rank < task.rank := by
  have := precedes_step f st task
  rw [h] at this
  exact this.1

/-! ### Until it waits -/

/-- Where `goOn` stops for the time being: the callback is over, or has to wait for some
milliseconds. -/
inductive Pause (σ : Type) where
  | done (outcome : Except Panic Answer)
  | waiting (ms : Nat) (task : Task σ)

/-- What has gone on in the background when a task is carried out that has not had to wait. Checks are
started in tasks of their own, and here whatever has been left to do before is done first. This is one
order among those that are possible: `Filter.step` itself has nothing done in the background. -/
def meanwhile (f : Filter σ) (st : FilterState σ) : Task σ → FilterState σ
  | .complete .. => if f.registry.enabled.isEmpty then st else st.settle f
  | _ => st

/-- Goes on with a callback, `step` by `step`, until it is over or has to wait. -/
def goOn (f : Filter σ) (p : Progress σ) (st : FilterState σ) : Pause σ × FilterState σ :=
  match p with
  | .done outcome => (.done outcome, st)
  | .waiting ms task => (.waiting ms task, st)
  | .next task =>
    match _h : step f (f.meanwhile st task) task with
    | (p, st) => goOn f p st
termination_by p.rank
decreasing_by
  cases hp : p with
  | next task' => exact Nat.succ_lt_succ (rank_lt_of_step (by rw [_h, hp]))
  | done outcome => exact Nat.succ_pos _
  | waiting ms task' => exact Nat.succ_pos _

/-- Takes a callback with `call`, and goes on with it until it is over or has to wait. -/
def start (f : Filter σ) (id : Option Uuid) (c : Callback) (st : FilterState σ) :
    Pause σ × FilterState σ :=
  goOn f (call id c st) st

/-- Goes on with the `task` of a callback that has waited. -/
def resume (f : Filter σ) (task : Task σ) (st : FilterState σ) : Pause σ × FilterState σ :=
  goOn f (.next task) st

/-- What `goOn` comes to wait for is bounded by what was left when it began. -/
theorem remaining_lt_of_goOn {f : Filter σ} {p : Progress σ} {st : FilterState σ} {n : Nat}
    (hnext : ∀ t, p = .next t → t.remaining f ≤ n)
    (hwait : ∀ ms t, p = .waiting ms t → t.remaining f < n) {ms : Nat} {task : Task σ}
    (h : (goOn f p st).1 = .waiting ms task) : task.remaining f < n := by
  fun_induction goOn f p st with
  | case1 st outcome => cases h
  | case2 st ms' t =>
    cases h
    exact hwait _ _ rfl
  | case3 st t p st' hstep ih =>
    have hpre := precedes_step f (f.meanwhile st t) t
    rw [hstep] at hpre
    refine ih (fun t' ht' => ?_) (fun ms t' ht' => ?_) h
    · rw [ht'] at hpre
      exact Nat.le_trans hpre.2 (hnext t rfl)
    · rw [ht'] at hpre
      exact Nat.lt_of_lt_of_le hpre (hnext t rfl)

/-- A callback that is resumed and has to wait again waits for fewer answers, so `finish` ends. -/
theorem remaining_lt_of_resume {f : Filter σ} {task task' : Task σ} {st : FilterState σ} {ms : Nat}
    (h : (resume f task st).1 = .waiting ms task') : task'.remaining f < task.remaining f :=
  remaining_lt_of_goOn (fun _ ht => by cases ht; exact Nat.le_refl _) (fun _ _ ht => by cases ht) h

/-! ### To the end -/

/-- Goes on with a callback that has waited until it is over. While it waited, `FilterState.settle` has
worked off the rest. -/
def finish (f : Filter σ) (task : Task σ) (st : FilterState σ) :
    Except Panic Answer × FilterState σ :=
  match _h : resume f task (st.settle f) with
  | (.done outcome, st) => (outcome, st)
  | (.waiting _ next, st) => finish f next st
termination_by task.remaining f
decreasing_by exact remaining_lt_of_resume (congrArg Prod.fst _h)

/-- Runs a callback to its end: `start`, and `finish` if it has to wait. -/
def run (f : Filter σ) (id : Option Uuid) (c : Callback) (st : FilterState σ) :
    Except Panic Answer × FilterState σ :=
  match start f id c st with
  | (.done outcome, st) => (outcome, st)
  | (.waiting _ task, st) => finish f task st

end Filter

end MailFilter
