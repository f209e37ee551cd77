/-
Dispositions of a message.
-/
namespace MailFilter

/-- What a check suggests, or what is decided for a message. `error` stands for a check that
failed; it defers the message and is never an answer to a client. -/
inductive Action where
  | permit
  | tempfail
  | reject
  | error
  deriving DecidableEq, Repr, Inhabited

namespace Action

/-- All dispositions, in the order of their positions. -/
def all : List Action := [permit, tempfail, reject, error]

/-- The name of a disposition. -/
def name : Action → String
  | permit => "permit"
  | tempfail => "tempfail"
  | reject => "reject"
  | error => "error"

/-- The position of a disposition among the four. -/
def index : Action → Nat
  | permit => 0
  | tempfail => 1
  | reject => 2
  | error => 3

/-- The disposition with the `name` that is given. -/
def ofName? (s : String) : Option Action :=
  all.find? fun a => a.name == s

end Action

end MailFilter
