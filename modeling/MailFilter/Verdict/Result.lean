/-
Results of checks.

A result suggests a disposition and a score. `CheckResult.normalized` is the form in which results
are counted: a zero score never refuses a message.
-/
import MailFilter.Action
import MailFilter.Data.Basic

namespace MailFilter

/-- One module's opinion on one message. -/
structure CheckResult (ρ : Type) where
  /-- The module that reports. -/
  module : String := ""
  action : Action
  /-- What the client is told if this result decides. -/
  message : String := ""
  score : ρ
  /-- The score after the weights of groups. -/
  weightedScore : ρ
  /-- Facts for the audit record, in the order of their names. -/
  determinants : List (String × Data ρ) := []
  /-- How long the check took, in milliseconds. -/
  elapsedMs : Nat := 0
  /-- What the module wants to be told again, with the final disposition, after the verdict. -/
  followUps : List String := []

namespace CheckResult

variable {ρ : Type}

/-- A result with a disposition and a score, which is its `weightedScore` to begin with. -/
def new (action : Action) (score : ρ) : CheckResult ρ :=
  { action, score, weightedScore := score }

/-- A result that has nothing against a message. -/
def permit [Score ρ] : CheckResult ρ :=
  new .permit Score.zero

/-- The result that stands for a failed check: the action is `error`, the score the `penalty`. -/
def failed (module reason : String) (penalty : ρ) : CheckResult ρ :=
  { new .error penalty with module, determinants := [("error", .text reason)] }

/-- Adds the fact `value` under `key` for the audit record. An earlier one of that name is lost. -/
def withFact (r : CheckResult ρ) (key : String) (value : Data ρ) : CheckResult ρ :=
  { r with determinants := Fields.insert key value r.determinants }

/-- The disposition that counts: a refusal with a zero score is none, and so a `permit`. -/
def effectiveAction [Score ρ] (action : Action) (score : ρ) : Action :=
  if Score.isZero score && (action = .reject || action = .tempfail) then .permit else action

/-- The form in which a result is counted: its disposition is `effectiveAction`, and its weighted score
is its score. -/
def normalized [Score ρ] (r : CheckResult ρ) : CheckResult ρ :=
  { r with action := effectiveAction r.action r.score, weightedScore := r.score }

theorem effectiveAction_error [Score ρ] (score : ρ) :
    effectiveAction .error score = .error := by
  simp [effectiveAction]

end CheckResult

end MailFilter
