/-
The stages of a mail transaction and the positions of a session between them.

`Position.next` is the transition table: which stage may happen where, and where it leads.
-/
namespace MailFilter

/-- A step of the mail protocol that the server reports. -/
inductive Stage where
  | connect
  | helo
  | envFrom
  | envRcpt
  | header
  | eoh
  | body
  | eom
  | abort
  | close
  deriving DecidableEq, Repr

namespace Stage

/-- All stages. -/
def all : List Stage :=
  [connect, helo, envFrom, envRcpt, header, eoh, body, eom, abort, close]

/-- The name of a stage. -/
def name : Stage → String
  | connect => "connect"
  | helo => "helo"
  | envFrom => "envfrom"
  | envRcpt => "envrcpt"
  | header => "header"
  | eoh => "eoh"
  | body => "body"
  | eom => "eom"
  | abort => "abort"
  | close => "close"

/-- The stage with the `name` that is given. -/
def ofName? (s : String) : Option Stage :=
  all.find? fun stage => stage.name == s

end Stage

/-- Where a session stands. `greeted` is also the position between the messages of one session. -/
inductive Position where
  | connected
  | greeted
  | mailFrom
  | recipients
  | headers
  | body
  | failed
  deriving DecidableEq, Repr

namespace Position

/-- All positions. -/
def all : List Position :=
  [connected, greeted, mailFrom, recipients, headers, body, failed]

/-- The name of a position. -/
def name : Position → String
  | connected => "connected"
  | greeted => "greeted"
  | mailFrom => "mail-from"
  | recipients => "recipients"
  | headers => "headers"
  | body => "body"
  | failed => "failed"

/-- The position with the `name` that is given. -/
def ofName? (s : String) : Option Position :=
  all.find? fun p => p.name == s

/-- The position that a stage leads to, if the stage may happen. A session may start a message without a
greeting, and one that has `failed` stays so. -/
def next : Position → Stage → Option Position
  | failed, _ => none
  | connected, .helo => some greeted
  | greeted, .helo => some greeted
  | connected, .envFrom => some mailFrom
  | greeted, .envFrom => some mailFrom
  | mailFrom, .envRcpt => some recipients
  | recipients, .envRcpt => some recipients
  | recipients, .header => some headers
  | headers, .header => some headers
  | recipients, .eoh => some body
  | headers, .eoh => some body
  | body, .body => some body
  | recipients, .eom => some greeted
  | headers, .eom => some greeted
  | body, .eom => some greeted
  | connected, .abort => some connected
  | _, .abort => some greeted
  | _, _ => none

/-- Whether a message is open in a position; `Session.current?` is the message. -/
def inMessage : Position → Bool
  | mailFrom | recipients | headers | body => true
  | connected | greeted | failed => false

/-- The steps of a run: every stage that may happen leads on to `next`, every other one is refused and
leaves the position as it is. -/
def run (p : Position) : List Stage → List (Option Position)
  | [] => []
  | stage :: rest =>
    match p.next stage with
    | some q => some q :: run q rest
    | none => none :: run p rest

/-- The position after the run `run p stages`. -/
def after (p : Position) (stages : List Stage) : Position :=
  stages.foldl (fun q stage => (q.next stage).getD q) p

end Position

end MailFilter
