/-
Why a callback failed.
-/
import MailFilter.Session.Stage

namespace MailFilter

/-- A failed callback. It never reaches the server: every failure becomes a reply, by
`Reply.ofFailure`. -/
inductive Failure where
  | noSession (stage : Stage)
  | senderCount (count : Nat)
  | noMessage (stage : Stage)
  | outOfOrder (stage : Stage) (position : Position)
  | sessionFailed
  | messageFinalized
  | panicked (reason : String)
  deriving DecidableEq, Repr

namespace Failure

/-- The words for a failure. -/
def message : Failure → String
  | noSession stage => "no session established for " ++ stage.name
  | senderCount n => "expected exactly one sender address, got " ++ toString n
  | noMessage stage => "no message in progress for " ++ stage.name
  | outOfOrder stage position => stage.name ++ " not allowed in state " ++ position.name
  | sessionFailed => "session is in failed state"
  | messageFinalized => "message already has a verdict"
  | panicked reason => "panic in callback: " ++ reason

/-- Whether the server broke the order of the protocol, as opposed to an inner fault. -/
def isViolation : Failure → Bool
  | noSession _ | senderCount _ | noMessage _ | outOfOrder _ _ => true
  | sessionFailed | messageFinalized | panicked _ => false

/-- Whether the session cannot go on: `Filter.answerFailure` fails it. -/
def isFatal : Failure → Bool
  | senderCount _ => true
  | _ => false

end Failure

end MailFilter
