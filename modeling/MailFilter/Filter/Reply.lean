/-
What the filter tells the mail server.
-/
import MailFilter.Message.Mutation

namespace MailFilter

/-- The answer to a callback. `tempfail` and `reject` carry the text for the client. -/
inductive Reply where
  | proceed
  | tempfail (text : String)
  | reject (text : String)
  deriving DecidableEq, Repr

/-- The answer to a callback with the changes to the headers; there are some at the end of a message
only, from `Ruling.mutations`. -/
structure Answer where
  reply : Reply
  mutations : List HeaderMutation := []
  deriving DecidableEq, Repr

namespace Reply

/-- The text of `ofFailure` for a callback outside any session. -/
def protocolErrorText : String := "Protocol error, please reconnect"

/-- The text of `ofFailure` for any other failed callback. -/
def localErrorText : String := "Temporary local problem, try again later"

/-- For a recipient without an address. -/
def badRecipientText : String := "5.1.3 Bad recipient address syntax"

/-- A text with `queueId`, the name of the message at the mail server, if it has one. -/
def withQueueId (text queueId : String) : String :=
  if queueId.isEmpty then text else text ++ " (queue id " ++ queueId ++ ")"

/-- The answer to a callback that has failed with `e`; a client on the allow list is told to go on. -/
def ofFailure (allowListed : Bool) (e : Failure) : Reply :=
  if allowListed then proceed
  else match e with
    | .noSession _ => tempfail protocolErrorText
    | _ => tempfail localErrorText

/-- The answer for a recipient; a client on the allow list is never refused. -/
def ofRecipient (allowListed : Bool) (action : Action) (text : String) : Reply :=
  if action = .permit || allowListed then proceed
  else if action = .reject then reject text
  else tempfail text

/-- The answer for a message with the verdict `action`: a refusal names the message by `withQueueId`. -/
def ofVerdict (action : Action) (text queueId : String) : Reply :=
  match action with
  | .permit => proceed
  | .reject => reject (withQueueId text queueId)
  | .tempfail | .error => tempfail (withQueueId text queueId)

end Reply

end MailFilter
