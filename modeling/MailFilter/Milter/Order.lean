/-
The order of commands on a connection.

A command that does not fit where the connection stands abandons the message at hand; it is then
tried once more as if the client had just introduced itself.
-/
namespace MailFilter.Milter

/-- Where a connection stands: the command that was taken last. -/
inductive Place where
  | start | negotiated | connected | greeted | mail | rcpt | header | eoh | body | eom | quit
  | abort | quitKeeping
  deriving DecidableEq, Repr

namespace Place

/-- The places that may follow one. -/
def followers : Place → List Place
  | start => [negotiated]
  | negotiated | quitKeeping => [connected]
  | connected | greeted => [greeted, mail]
  | mail => [rcpt, abort]
  | rcpt => [rcpt, header, eoh, body, eom, abort]
  | header => [header, eoh, abort]
  | eoh | body => [body, eom, abort]
  | eom => [mail, quit, quitKeeping]
  | quit | abort => []

/-- Whether the place `next` is among the `followers` of `here`. -/
def allows (here next : Place) : Bool :=
  here.followers.contains next

/-- Whether a message is at hand. -/
def inTransaction : Place → Bool
  | mail | rcpt | header | eoh | body => true
  | _ => false

/-- The place from which a command is taken: this one if it `allows` the next, or else that of a client
that has just introduced itself. -/
def fallback (here next : Place) : Place :=
  if here.allows next then here else greeted

/-- Whether a command makes the connection abandon the message at hand before it is tried again from its
`fallback`. -/
def abandons (here next : Place) : Bool :=
  !here.allows next && here.inTransaction

/-- Whether a command is taken at all: its `fallback` allows it. -/
def takes (here next : Place) : Bool :=
  (here.fallback next).allows next

/-- The place after a command that has been taken. A refusal sends the client back to where it had
just introduced itself, unless it refuses one recipient only. -/
def settled (next : Place) (refused : Bool) : Place :=
  if refused && next ≠ rcpt then greeted else next

end Place

end MailFilter.Milter
