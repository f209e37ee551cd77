/-
Verdicts: what is decided for a message from the results of its checks.

A message is rejected when the rejecting scores reach their threshold; else it is deferred when a
check failed, or when rejecting and deferring scores together reach theirs; else it is permitted.
-/
import MailFilter.Verdict.Result
import MailFilter.Config.Basic

namespace MailFilter

/-- The final disposition of a message, with the `results` that it rests on. -/
structure Verdict (ρ : Type) where
  action : Action
  /-- What the client is told; empty for a permitted message. -/
  message : String
  rejectScore : ρ
  rejectThreshold : ρ
  tempfailScore : ρ
  tempfailThreshold : ρ
  /-- The module whose result gave the message. -/
  decidingModule : Option String
  /-- Whether results were no longer collected because one kind had scored enough. -/
  breakerTripped : Bool
  /-- The collected results, in the order of their modules. -/
  results : List (CheckResult ρ)

namespace Verdict

variable {ρ : Type}

/-- What the client is told when a check failed: `ruling` defers the message then. -/
def failureText : String := "An internal error occurred"

/-- What the client is told when no rejecting result has a message. -/
def rejectText : String := "Message rejected"

/-- What the client is told when no deferring result has a message. -/
def tempfailText : String := "Message deferred, try again later"

/-- The `results` with one disposition. -/
def bucket (action : Action) (results : List (CheckResult ρ)) : List (CheckResult ρ) :=
  results.filter fun r => r.action = action

/-- How many checks failed: the size of the `bucket` of errors. -/
def errorCount (v : Verdict ρ) : Nat :=
  (bucket .error v.results).length

variable [Score ρ]

/-- The summed `weightedScore` of the results in a `bucket`. -/
def bucketScore (action : Action) (results : List (CheckResult ρ)) : ρ :=
  Score.sum ((bucket action results).map (·.weightedScore))

/-- The better one of the result found so far and the next one by `weightedScore`: a tie keeps the
earlier. -/
def better (best : Option (CheckResult ρ)) (r : CheckResult ρ) : Option (CheckResult ρ) :=
  match best with
  | some b => if Score.le r.weightedScore b.weightedScore then some b else some r
  | none => some r

/-- The result in a `bucket` with a message that scores most, the first of several. -/
def deciding (action : Action) (results : List (CheckResult ρ)) : Option (CheckResult ρ) :=
  ((bucket action results).filter fun r => !r.message.isEmpty).foldl better none

/-- Whether a threshold that is switched on, so positive, has been reached by `score`. -/
def reaches (score threshold : ρ) : Bool :=
  Score.isPositive threshold && Score.le threshold score

/-- The disposition, the message and the deciding module for weighted results: a rejection if its score
`reaches` the threshold, else a failure, else a deferral. -/
def ruling (scoring : Scoring ρ) (results : List (CheckResult ρ)) :
    Action × String × Option String :=
  let rejectScore := bucketScore .reject results
  let tempfailScore := bucketScore .tempfail results
  let told (d : Option (CheckResult ρ)) (text : String) : String × Option String :=
    ((d.map (·.message)).getD text, d.map (·.module))
  if reaches rejectScore scoring.rejectThreshold then
    (.reject, told (deciding .reject results) rejectText)
  else match results.find? fun r => r.action = .error with
    | some failed => (.tempfail, failureText, some failed.module)
    | none =>
      if reaches (Score.add tempfailScore rejectScore) scoring.tempfailThreshold then
        (.tempfail,
          told ((deciding .tempfail results).or (deciding .reject results)) tempfailText)
      else (.permit, "", none)

/-- Decides on weighted results, by `ruling`. -/
def decide (scoring : Scoring ρ) (results : List (CheckResult ρ)) : Verdict ρ :=
  let (action, message, decidingModule) := ruling scoring results
  { action, message, decidingModule
    rejectScore := bucketScore .reject results
    rejectThreshold := scoring.rejectThreshold
    tempfailScore := bucketScore .tempfail results
    tempfailThreshold := scoring.tempfailThreshold
    breakerTripped := false
    results }

end Verdict

end MailFilter
