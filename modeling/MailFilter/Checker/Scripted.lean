/-
Checkers that answer from a script and keep a journal, for rehearsing a set of checkers.
-/
import MailFilter.Checker.Basic

namespace MailFilter

/-- What scripted checkers have been asked. -/
inductive Event where
  | started (module : String)
  | stopped (module : String)
  | checked (module : String) (recipients : Nat)
  | cancelled (module : String)
  | asked (module recipient : String) (helo : Option String)
  | followedUp (module token : String) (action : Action)
  | delivered (module channel : String) (payload : Json)

/-- The end of a session as a scripted checker has seen it. -/
structure Ending where
  session : Uuid
  module : String
  pruned : Bool
  messages : Nat

/-- The journal of scripted checkers: what they have been asked, as an `Event` each, and the sessions
whose end they have seen. -/
structure Journal where
  events : List Event := []
  endings : List Ending := []

/-- Adds the event `e` at the end. -/
def Journal.note (j : Journal) (e : Event) : Journal :=
  { j with events := j.events ++ [e] }

/-- The script of a message check. -/
structure CheckScript where
  delayMs : Nat := 0
  outcome : CheckOutcome
  cancellable : Bool := false

/-- The script of a recipient check: its answer, for all addresses or for the `only` one. -/
structure GateScript where
  delayMs : Nat := 0
  only : Option String := none
  outcome : GateOutcome

/-- The script of a channel: its name, and how it fails if it does. -/
structure ChannelScript where
  name : String
  failure : Option String := none

/-- The script of a checker. What is absent stays silent and has nothing against anything. -/
structure Script where
  name : String
  enabled : Bool := true
  startFailure : Option String := none
  stopFailure : Option String := none
  check : Option CheckScript := none
  gate : Option GateScript := none
  ipc : List ChannelScript := []
  rpc : List ChannelScript := []

namespace Script

/-- The answer of a step that may fail: `a`, unless there is a `failure`. -/
def answer {α : Type} (failure : Option String) (a : α) : Except String α :=
  match failure with
  | some text => .error text
  | none => .ok a

/-- The outcome of a recipient check: an address that the script does not mean by `only` is accepted. -/
def gateOutcome (script : GateScript) (recipient : Address) : GateOutcome :=
  match script.only with
  | some address => if address = recipient.text then script.outcome else .verdict .permit
  | none => script.outcome

/-- The checker of a script. Everything that it is asked goes into the `Journal`. -/
def checker (script : Script) : Checker Journal where
  name := script.name
  enabled := script.enabled
  start j := (answer script.startFailure (), j.note (.started script.name))
  stop j := (answer script.stopFailure (), j.note (.stopped script.name))
  check ctx _ j :=
    match script.check with
    | none => ({ outcome := .abstained }, j)
    | some c =>
      ({ delayMs := c.delayMs, outcome := c.outcome, cancellable := c.cancellable },
        j.note (.checked script.name ctx.message.recipients.length))
  cancelled j := j.note (.cancelled script.name)
  gate connection recipient j :=
    match script.gate with
    | none => ({ outcome := .verdict .permit }, j)
    | some g =>
      ({ delayMs := g.delayMs, outcome := gateOutcome g recipient },
        j.note (.asked script.name recipient.text connection.helo))
  sessionEnded record j :=
    { j with endings := j.endings ++
      [⟨record.id, script.name, record.pruned, record.messageIds.length⟩] }
  followUp token action _ j := j.note (.followedUp script.name token action)
  ipc := script.ipc.map fun c =>
    ⟨c.name, fun payload j => (answer c.failure (), j.note (.delivered script.name c.name payload))⟩
  rpc := script.rpc.map fun c =>
    ⟨c.name, fun payload j =>
      (answer c.failure (.object [("echo", payload), ("module", .text script.name)]), j)⟩

end Script

end MailFilter
