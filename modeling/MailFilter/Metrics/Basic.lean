/-
What the filter counts and measures.
-/
import MailFilter.Action
import MailFilter.Data.Fields
import MailFilter.Metrics.Exposition
import MailFilter.Session.Stage

namespace MailFilter

/-- Counts by label, in the order of the labels. -/
abbrev Tally := List (String × Nat)

/-- Adds `n` to the count of a label. -/
def Tally.add (t : Tally) (label : String) (n : Nat := 1) : Tally :=
  Fields.insert label ((Fields.find? label t).getD 0 + n) t

/-- The count of a label; it is zero if nothing has been added by `add`. -/
def Tally.count (t : Tally) (label : String) : Nat :=
  (Fields.find? label t).getD 0

theorem Tally.count_add (t : Tally) (label other : String) :
    (t.add label).count other = t.count other + if label = other then 1 else 0 := by
  unfold Tally.add Tally.count
  by_cases h : label = other
  · subst h
    rw [Fields.find?_insert_self, if_pos rfl]
    rfl
  · rw [Fields.find?_insert_of_ne (Ne.symm h), if_neg h, Nat.add_zero]

/-- The upper bounds of the intervals in which durations are counted, in seconds. -/
def durationBounds : List Float :=
  [0.005, 0.01, 0.025, 0.05, 0.1, 0.25, 0.5, 1.0, 2.5, 5.0, 10.0]

/-- Measured durations: how many there are up to each of `durationBounds`, how many in all, and their
sum. -/
structure Durations where
  upTo : List Nat := durationBounds.map fun _ => 0
  count : Nat := 0
  sum : Float := 0.0

/-- Adds a duration to the counts, below each of `durationBounds` that it does not exceed. -/
def Durations.observe (d : Durations) (seconds : Float) : Durations where
  upTo := List.zipWith (fun n bound => if seconds <= bound then n + 1 else n) d.upTo durationBounds
  count := d.count + 1
  sum := d.sum + seconds

/-- What the filter counts and measures. -/
structure Metrics where
  protocolErrors : Nat := 0
  /-- Failed callbacks by stage. -/
  callbackFailures : Tally := []
  callbackPanics : Nat := 0
  /-- Failed checks by module. -/
  moduleErrors : Tally := []
  /-- Durations of checks by module. -/
  moduleDurations : List (String × Durations) := []
  /-- Verdicts by disposition. -/
  verdicts : Tally := []
  sessionsPruned : Nat := 0

namespace Metrics

/-- Counts a failed callback by its stage, and among `protocolErrors` if the server broke
the protocol. -/
def noteFailure (m : Metrics) (stage : Stage) (isViolation : Bool) : Metrics :=
  { m with
    callbackFailures := m.callbackFailures.add stage.name
    protocolErrors := if isViolation then m.protocolErrors + 1 else m.protocolErrors }

/-- Counts a panic in a callback. -/
def notePanic (m : Metrics) : Metrics :=
  { m with callbackPanics := m.callbackPanics + 1 }

/-- Counts a verdict. -/
def noteVerdict (m : Metrics) (action : Action) : Metrics :=
  { m with verdicts := m.verdicts.add action.name }

/-- Counts an evicted session. -/
def notePruned (m : Metrics) : Metrics :=
  { m with sessionsPruned := m.sessionsPruned + 1 }

/-- Measures a check: a duration of the `module`, by `Durations.observe`. -/
def noteDuration (m : Metrics) (module : String) (seconds : Float) : Metrics :=
  { m with
    moduleDurations := Fields.insert module
      (((Fields.find? module m.moduleDurations).getD {}).observe seconds) m.moduleDurations }

/-- Counts a failed check. -/
def noteError (m : Metrics) (module : String) : Metrics :=
  { m with moduleErrors := m.moduleErrors.add module }

/-! ### Exposition -/

/-- A count as it is shown: a counter starts again after 64 bits. -/
def shown (n : Nat) : Float :=
  Float.ofNat (n % UInt64.size)

/-- The `Family` of a single count. -/
def counterFamily (name help : String) (n : Nat) : Family :=
  ⟨name, help, "counter", [{ value := shown n }]⟩

/-- The `Family` of counts by label. -/
def tallyFamily (name help label : String) (t : Tally) : Family :=
  ⟨name, help, "counter", t.map fun entry => { labels := [(label, entry.1)], value := shown entry.2 }⟩

/-- The samples of the `Durations` of one module. -/
def durationSamples (module : String) (d : Durations) : List Sample :=
  let label := ("module", module)
  let bucket (bound : String) (n : Nat) : Sample :=
    { ending := "_bucket", labels := [label, ("le", bound)], value := shown n }
  List.zipWith (fun bound n => bucket (Number.plainStyle.text bound) n) durationBounds d.upTo ++
    [bucket "+Inf" d.count, { ending := "_sum", labels := [label], value := d.sum },
      { ending := "_count", labels := [label], value := shown d.count }]

/-- All families. -/
def families (m : Metrics) : List Family :=
  [counterFamily "mailsift_protocol_errors_total"
      "Milter callbacks that violated the protocol contract" m.protocolErrors,
    tallyFamily "mailsift_callback_failures_total" "Milter callbacks that failed, by stage" "stage"
      m.callbackFailures,
    counterFamily "mailsift_callback_panics_total" "Panics caught at a callback boundary"
      m.callbackPanics,
    tallyFamily "mailsift_module_errors_total" "Module checks that failed, panicked or timed out"
      "module" m.moduleErrors,
    ⟨"mailsift_module_check_seconds", "Duration of module message checks", "histogram",
      m.moduleDurations.flatMap fun entry => durationSamples entry.1 entry.2⟩,
    tallyFamily "mailsift_verdicts_total" "Final verdicts by action" "action" m.verdicts,
    counterFamily "mailsift_sessions_pruned_total" "Sessions evicted without a Close callback"
      m.sessionsPruned]

/-- The text exposition of all metrics, the `families` one after the other. -/
def text (m : Metrics) : String :=
  Exposition.text m.families

end Metrics

end MailFilter
