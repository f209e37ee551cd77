/-
Commands and packets as data.
-/
import MailFilter.Data.Bytes
import MailFilter.Milter.Packet
import MailFilter.Rehearsal.Reading

namespace MailFilter.Milter

/-! ### Commands -/

/-- The text of bytes, by `decodeLossy`; what is ill-formed in it is replaced. -/
def asLossy? (j : Json) : Option String :=
  (Data.asBytes? j).map Text.decodeLossy

/-- The texts of a list, each by `asLossy?`. -/
def asLossyList? (j : Json) : Option (List String) :=
  (Data.asList? j).bind fun items => items.mapM asLossy?

/-- Names and values that take turns. -/
def pairs : List String → List (String × String)
  | name :: value :: rest => (name, value) :: pairs rest
  | _ => []

/-- Reads where a client has connected from, if over the network. -/
def readPeer (j : Json) : Read (Option (Ip × Nat)) := do
  match ← j.allowOr Data.asText? "" "family" with
  | "4" | "6" =>
    let some ip := Ip.parse? (← j.require Data.asText? "address") | throw (.field "address")
    return some (ip, ← j.allowOr Data.asNat? 0 "port")
  | _ => return none

/-- Reads a `Command`. -/
def Command.read (j : Json) : Read Command := do
  let text := j.require asLossy?
  let args := j.allowOr asLossyList? [] "args"
  match ← j.require Data.asText? "do" with
  | "negotiate" =>
    let usual : Offer := {}
    let number := fun default => j.allowOr Data.asNat? default
    return .negotiate ⟨← number usual.version "version", ← number usual.actions "actions",
      ← number usual.options "opts"⟩
  | "macros" =>
    let stage ← j.require (fun v => (Data.asText? v).bind MacroStage.ofLetter?) "stage"
    return .macros stage (pairs (← j.allowOr asLossyList? [] "macros"))
  | "connect" => return .connect (← j.allowOr asLossy? "" "hostname") (← readPeer j)
  | "helo" => return .helo (← text "helo")
  | "mail" => return .mail (← args)
  | "rcpt" => return .rcpt (← args)
  | "header" => return .header (← text "key") (← text "value")
  | "eoh" => return .eoh
  | "body" => return .body (← j.require Data.asBytes? "data")
  | "eom" => return .eom (← j.allowOr Data.asBytes? [] "data")
  | "abort" => return .abort
  | "quit" => return .quit
  | "quit_nc" => return .quitKeeping
  | _ => throw (.field "do")

/-! ### Packets -/

/-- An agreement as data. -/
def Agreement.toData (a : Agreement) : Json :=
  let wish (stage : MacroStage) (names : String) : Json :=
    .list [.ofNat stage.number, .text names]
  .list [.text "negotiate", .ofNat a.version, .ofNat a.actions, .ofNat a.options,
    .list (a.macros.map fun (stage, names) => wish stage names)]

/-- A packet as data. -/
def Packet.toData : Packet → Json
  | agreed a => a.toData
  | proceed => .text "continue"
  | tempfail => .text "tempfail"
  | reject => .text "reject"
  | status line => .ofTexts ["reply", line.line]
  | addHeader key value => .ofTexts ["add_header", key, value]
  | deleteHeader key index => .list [.text "change_header", .text key, .ofNat index, .text ""]
  | closed => .text "closed"

end MailFilter.Milter
