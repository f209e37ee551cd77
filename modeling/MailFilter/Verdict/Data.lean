/-
Results and verdicts as data.
-/
import MailFilter.Config.Reading
import MailFilter.Data.Access
import MailFilter.Verdict.Basic

namespace MailFilter

/-- Reads a disposition. -/
def Action.ofData? (j : Json) : Option Action :=
  (Config.strictName (Action.all.map Action.name) j).bind Action.ofName?

namespace CheckResult

/-- Reads a `CheckResult`; its weighted score is its score unless it is given. -/
def read (j : Json) : Read (CheckResult Float) := do
  let action ← ((Action.ofData? (j.valueOr "action" .null)).map Except.ok).getD (.error .action)
  let score ← j.require Data.asFloat? "score"
  return {
    module := ← j.allowOr Data.asText? "" "module"
    action, score
    message := ← j.allowOr Data.asText? "" "message"
    weightedScore := ← j.allowOr Data.asFloat? score "weighted_score"
    determinants := ← j.allowOr Data.asObject? [] "determinants" }

/-- Reads a list of results, each by `read`. -/
def readAll (key : String) (j : Json) : Read (List (CheckResult Float)) := do
  (← j.allowOr Data.asList? [] key).mapM read

/-- A `CheckResult` as data. -/
def toData (r : CheckResult Float) : Json :=
  .sortedObject [("action", .text r.action.name), ("callbacks", .ofNat r.followUps.length),
    ("determinants", .object r.determinants), ("message", .text r.message),
    ("module", .text r.module), ("score", .ofFloat r.score),
    ("weighted_score", .ofFloat r.weightedScore)]

end CheckResult

/-- A `Verdict` as data. -/
def Verdict.toData (v : Verdict Float) : Json :=
  let names (a : Action) : Json := .ofTexts ((bucket a v.results).map (·.module))
  .sortedObject [("action", .text v.action.name), ("message", .text v.message),
    ("reject_score", .ofFloat v.rejectScore), ("reject_threshold", .ofFloat v.rejectThreshold),
    ("tempfail_score", .ofFloat v.tempfailScore),
    ("tempfail_threshold", .ofFloat v.tempfailThreshold),
    ("deciding_module", .ofText? v.decidingModule), ("breaker_tripped", .bool v.breakerTripped),
    ("errors", .ofNat v.errorCount), ("buckets", .list (Action.all.map names)),
    ("results", .list (v.results.map CheckResult.toData))]

end MailFilter
