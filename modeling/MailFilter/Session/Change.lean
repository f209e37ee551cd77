/-
What the callbacks of the mail server change in a session.

A callback may fail part of the way; what it has changed until then stays.
-/
import MailFilter.Change
import MailFilter.Session.Basic

namespace MailFilter

/-- A `Change` of a session with no result of its own. -/
abbrev SessionChange := Change Session Unit

namespace SessionChange

/-- Moves to the position after a stage, by `Session.advance`, or leaves the session as it is. -/
def advance (stage : Stage) : SessionChange :=
  Change.whole fun s => s.advance stage

/-- Takes over facts about authentication, by `Session.recordSasl`. This cannot fail. -/
def recordSasl (sasl : Sasl) : SessionChange := fun s =>
  (.ok (), s.recordSasl sasl)

/-- Changes the open message by `f`. What `f` has changed of it until a failure stays. -/
def changeCurrent {β : Type} (stage : Stage) (f : Change Message β) : Change Session β := fun s =>
  match s.current? with
  | none => (.error (.noMessage stage), s)
  | some m => ((f m).1, s.replaceLast (f m).2)

/-- Changes the open message by `f`, completely or not at all. -/
def modifyCurrent (stage : Stage) (f : Message → Except Failure Message) : SessionChange :=
  changeCurrent stage (Change.whole f)

/-- The greeting of the client, by `Session.greet`. -/
def greet (helo : String) (tls : Tls) : SessionChange :=
  Change.whole fun s => s.greet helo tls

/-- The arguments of `MAIL FROM` that can be a sender. -/
def senderArguments (args : List String) : List String :=
  args.filter fun a => a.startsWith "<"

/-- `MAIL FROM`: there must be exactly one sender among the arguments. -/
def envFrom (message : Uuid) (now : Timestamp) (args : List String) (sasl : Sasl) :
    SessionChange :=
  match senderArguments args with
  | [sender] =>
    (recordSasl sasl).andThen
      (Change.whole fun s => s.begin message now (Address.ofArgument sender))
  | others => fun s => (.error (.senderCount others.length), s)

/-- `RCPT TO`, before the recipient is put to the checkers: a message must be open. -/
def envRcpt : SessionChange :=
  (advance .envRcpt).andThen (modifyCurrent .envRcpt .ok)

/-- Adds a recipient that has been accepted to the open message, by `Message.addRecipient`. -/
def acceptRecipient (recipient : Address) : SessionChange :=
  modifyCurrent .envRcpt fun m => m.addRecipient recipient

/-- A header line, which `Message.addHeader` puts after those of the open message. -/
def header (key value : String) : SessionChange :=
  (advance .header).andThen
    (modifyCurrent .header fun m => (m.addHeader key value).map (·.2))

/-- Records the name of a message at the mail server by `Message.setQueueId`, unless it is empty. -/
def nameMessage (queueId : Option String) (m : Message) : Except Failure Message :=
  match queueId with
  | some q => if q.isEmpty then .ok m else m.setQueueId q
  | none => .ok m

/-- The end of the headers: `nameMessage` may name the message, if the server has a name
for it by now. -/
def eoh (queueId : Option String) (sasl : Sasl) : SessionChange :=
  ((advance .eoh).andThen (recordSasl sasl)).andThen (modifyCurrent .eoh (nameMessage queueId))

/-- A part of the body, which `Message.appendBody` puts after those before. -/
def body (chunk : List UInt8) : SessionChange :=
  (advance .body).andThen (modifyCurrent .body fun m => m.appendBody chunk)

/-- The last touch to a message before it is judged: `nameMessage` if it has no name, and
`Message.ensureMessageId`. -/
def completeMessage (hostname : String) (queueId : Option String) : Change Message Unit :=
  (Change.whole fun m => if m.queueId.isEmpty then nameMessage queueId m else .ok m).andThen
    (Change.whole fun m => (m.ensureMessageId hostname).map (·.2))

/-- The end of a message, before it is judged: `completeMessage` on the open one. -/
def eom (queueId : Option String) : SessionChange :=
  (advance .eom).andThen fun s =>
    changeCurrent .eom (completeMessage s.config.hostname queueId) s

/-- Abandons the open message, by `Session.abort`. -/
def abort : SessionChange := fun s => (.ok (), s.abort.2)

end SessionChange

end MailFilter
