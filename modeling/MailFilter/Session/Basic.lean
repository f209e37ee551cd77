/-
Sessions: one connection of the mail server and the messages sent over it.

A session keeps the settings that were current when it connected. Its position decides which stage
may happen; at most the last of its messages is open.
-/
import MailFilter.Config.Basic
import MailFilter.Record

namespace MailFilter

/-- One connection, with its messages in the order in which they began. The last may be open: see
`current?`. -/
structure Session where
  id : Uuid
  connection : Connection
  config : Config
  connectedAt : Timestamp
  position : Position := .connected
  messages : List Message := []

namespace Session

/-- A session that has just connected, by the settings `config`. Whether its client `isAllowListed` is
settled here. -/
def new (id : Uuid) (config : Config) (now : Timestamp) (ip : Option Ip) (port : Option Nat)
    (reverseDns : Option String) : Session :=
  let allowListed := (ip.map config.milter.isAllowListed).getD false
  { id, config, connectedAt := now, connection := { ip, port, reverseDns, allowListed } }

/-- Whether the client of a session is never refused. `Session.new` has settled it. -/
def isAllowListed (s : Session) : Bool :=
  s.connection.allowListed

/-- Replaces the settings by `config` for the rest of the session. -/
def overrideConfig (s : Session) (config : Config) : Session :=
  { s with config }

/-- Moves to the position after a stage, as `Position.next` says. -/
def advance (s : Session) (stage : Stage) : Except Failure Session :=
  if s.position = .failed then .error .sessionFailed
  else match s.position.next stage with
    | some position => .ok { s with position }
    | none => .error (.outOfOrder stage s.position)

/-- Fails a session for good: from `failed` no stage leads on. -/
def fail (s : Session) : Session :=
  { s with position := .failed }

/-- Records a greeting, with what `tls` says of the encryption. -/
def greet (s : Session) (helo : String) (tls : Tls) : Except Failure Session :=
  (s.advance .helo).map fun s =>
    { s with connection := { s.connection with helo := some helo, tls } }

/-- Takes over facts about authentication. -/
def recordSasl (s : Session) (sasl : Sasl) : Session :=
  { s with connection := s.connection.recordSasl sasl }

/-- The open message: the last one, as long as it is not `isFinalized`. -/
def current? (s : Session) : Option Message :=
  s.messages.getLast?.filter fun m => !m.isFinalized

/-- Puts `m` into the place of the last message. -/
def replaceLast (s : Session) (m : Message) : Session :=
  { s with messages := s.messages.dropLast ++ [m] }

/-- Changes the open message by `f`; without one, `stage` fails. -/
def updateCurrent {α : Type} (s : Session) (stage : Stage)
    (f : Message → Except Failure (α × Message)) : Except Failure (α × Session) :=
  match s.current? with
  | none => .error (.noMessage stage)
  | some m => (f m).map fun (a, m) => (a, s.replaceLast m)

/-- Opens a message from `sender`, with the identifier `message`. -/
def begin (s : Session) (message : Uuid) (now : Timestamp) (sender : Address) :
    Except Failure Session :=
  (s.advance .envFrom).map fun s =>
    { s with messages := s.messages ++ [Message.new message s.id sender now] }

/-- Abandons the open message, and yields it. A session that has `failed` stays so. -/
def abort (s : Session) : Option Message × Session :=
  let position := (s.position.next .abort).getD s.position
  match s.current? with
  | some m => (some m, { s with position, messages := s.messages.dropLast })
  | none => (none, { s with position })

/-- The record of a session that has ended at `now`: it lists the identifiers of all messages. -/
def toRecord (s : Session) (now : Timestamp) (pruned : Bool) : SessionRecord :=
  { id := s.id, connection := s.connection, connectedAt := s.connectedAt
    disconnectedAt := some now, pruned, messageIds := s.messages.map (·.id) }

end Session

end MailFilter
