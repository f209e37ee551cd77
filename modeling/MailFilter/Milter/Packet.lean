/-
What is said on a connection: commands of the mail server, and packets of the filter.
-/
import MailFilter.Milter.Negotiation
import MailFilter.Milter.Order
import MailFilter.Milter.StatusLine
import MailFilter.Net.Ip

namespace MailFilter.Milter

/-- A command of the mail server. -/
inductive Command where
  | negotiate (offer : Offer)
  | macros (stage : MacroStage) (values : List (String × String))
  /-- A client has connected, over the network or otherwise. -/
  | connect (hostname : String) (peer : Option (Ip × Nat))
  | helo (name : String)
  | mail (args : List String)
  | rcpt (args : List String)
  | header (key value : String)
  | eoh
  | body (chunk : List UInt8)
  /-- The message is complete; a last part of its body may come with it. -/
  | eom (chunk : List UInt8)
  | abort
  | quit
  /-- The client has gone, but the connection will serve another one. -/
  | quitKeeping

/-- The `Place` that a command leads to, if it has one in the order. -/
def Command.place? : Command → Option Place
  | negotiate _ => some .negotiated
  | macros .. => none
  | connect .. => some .connected
  | helo _ => some .greeted
  | mail _ => some .mail
  | rcpt _ => some .rcpt
  | header .. => some .header
  | eoh => some .eoh
  | body _ => some .body
  | eom _ => some .eom
  | abort => some .abort
  | quit => some .quit
  | quitKeeping => some .quitKeeping

/-- The `MacroStage` that a command opens; macros of later stages do not outlive it. -/
def Command.macroStage? : Command → Option MacroStage
  | connect .. => some .connect
  | helo _ => some .helo
  | mail _ => some .mail
  | rcpt _ => some .rcpt
  | _ => none

/-- A packet of the filter. -/
inductive Packet where
  | agreed (agreement : Agreement)
  | proceed
  | tempfail
  | reject
  | status (line : StatusLine)
  | addHeader (key value : String)
  /-- The header of a name and a place goes. -/
  | deleteHeader (key : String) (index : Nat)
  | closed

namespace Packet

/-- The packet that answers a command: a `StatusLine` if it can be sent, else only its kind. -/
def ofReply (r : Reply) : Packet :=
  let plain := match r with
    | .proceed => proceed
    | .tempfail _ => tempfail
    | .reject _ => reject
  match (StatusLine.ofReply? r).filter (·.isSendable) with
  | some line => status line
  | none => plain

/-- The largest place of a header that can be sent. -/
def maxIndex : Nat := 2147483647

/-- A text as it can be sent, by `StatusLine.sendable`. -/
def sendable (s : String) : String :=
  String.ofList (StatusLine.sendable s.toList)

/-- The packet that changes the headers, with both texts `sendable`; a header without a name cannot be
sent, nor a place beyond `maxIndex`. -/
def ofMutation? : HeaderMutation → Option Packet
  | .add key value =>
    if key.isEmpty then none else some (addHeader (sendable key) (sendable value))
  | .delete key index =>
    if key.isEmpty then none else some (deleteHeader (sendable key) (min index maxIndex))

end Packet

end MailFilter.Milter
