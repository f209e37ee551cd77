/-
Changes to the headers of a message, as they are sent to the mail server.

Deletions are meant in order: the place of each one is that after the deletions before it.
-/
import MailFilter.Message.Basic

namespace MailFilter

/-- One change to the headers: a header is added, or the one at a place of a name deleted. -/
inductive HeaderMutation where
  | add (key value : String)
  | delete (key : String) (index : Nat)
  deriving DecidableEq, Repr

namespace Message

/-- Makes one change to the headers, by `addHeader` or `deleteHeader`. -/
def mutate (m : Message) : HeaderMutation → Except Failure Message
  | .add key value => (m.addHeader key value).map (·.2)
  | .delete key index => (m.deleteHeader key index).map (·.2)

/-- Makes changes to the headers, in order, each by `mutate`. -/
def mutateAll (m : Message) (mutations : List HeaderMutation) : Except Failure Message :=
  mutations.foldlM mutate m

/-- Whether a change adds the Message-Id that the message has been given already, its
`synthesizedId`. -/
def hasAdded (m : Message) : HeaderMutation → Bool
  | .add key value => Text.sameName key "Message-Id" && m.synthesizedId = some value
  | .delete _ _ => false

end Message

end MailFilter
