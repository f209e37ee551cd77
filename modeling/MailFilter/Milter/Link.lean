/-
A connection of the mail server to the filter.

The connection keeps what the callbacks need to know: the session, the macros, and where it stands
in the order of commands. `Link.receive` takes one command and yields the packets that answer it.
-/
import MailFilter.Filter.Run
import MailFilter.Milter.Packet

namespace MailFilter.Milter

/-- A connection, and the filter at its other end. -/
structure Link (σ : Type) where
  isOpen : Bool := true
  place : Place := .start
  session : Option Uuid := none
  macros : Macros := {}
  filter : FilterState σ

namespace Link

variable {σ : Type}

/-! ### Ends -/

/-- Runs the callback `c`, whose reply is of no interest. -/
def notify (f : Filter σ) (c : Callback) (l : Link σ) : Link σ :=
  { l with filter := (f.run l.session c l.filter).2 }

/-- Ends the session, by `notify` with the callback for it. -/
def leave (f : Filter σ) (l : Link σ) : Link σ :=
  { l.notify f .close with session := none }

/-- Abandons the message at hand, if the `place` tells of one. -/
def abandon (f : Filter σ) (l : Link σ) : Link σ :=
  if l.place.inTransaction then l.notify f .abort else l

/-- Closes the connection, whatever it is in the middle of: `abandon`, and then `leave`. -/
def close (f : Filter σ) (l : Link σ) : Link σ :=
  if l.isOpen then { (l.abandon f).leave f with isOpen := false } else l

/-- The connection has been lost, and nobody has ended the session. -/
def drop (l : Link σ) : Link σ :=
  { l with isOpen := false }

/-! ### Callbacks -/

/-- What the `macros` tell of encryption. -/
def tls (l : Link σ) : Tls where
  version := l.macros.find? "\x7btls_version\x7d"
  cipher := l.macros.find? "\x7bcipher\x7d"
  cipherBits := l.macros.find? "\x7bcipher_bits\x7d"
  certSubject := l.macros.find? "\x7bcert_subject\x7d"
  certIssuer := l.macros.find? "\x7bcert_issuer\x7d"

/-- What the `macros` tell of authentication. -/
def sasl (l : Link σ) : Sasl where
  username := l.macros.find? "\x7bauth_authen\x7d"
  method := l.macros.find? "\x7bauth_type\x7d"

/-- The name that the mail server has given to the message. -/
def queueId (l : Link σ) : Option String :=
  l.macros.find? "i"

/-- The callbacks that a `Command` stands for, in order. -/
def callbacks (l : Link σ) : Command → List Callback
  | .helo name => [.helo name l.tls]
  | .mail args => [.envFrom args l.sasl]
  | .rcpt args => [.envRcpt args]
  | .header key value => [.header key value]
  | .eoh => [.eoh l.queueId l.sasl]
  | .body chunk => [.body chunk]
  | .eom chunk => (if chunk.isEmpty then [] else [.body chunk]) ++ [.eom l.queueId]
  | _ => []

/-- Runs callbacks until one refuses: the answer of the last one, unless one has panicked. -/
def runAll (f : Filter σ) (cs : List Callback) (l : Link σ) : Except Panic Answer × Link σ :=
  match cs with
  | [] => (.ok { reply := .proceed }, l)
  | c :: rest =>
    let (outcome, filter) := f.run l.session c l.filter
    let l := { l with filter }
    match outcome, rest with
    | .ok a, _ :: _ => if a.reply = .proceed then runAll f rest l else (.ok a, l)
    | outcome, _ => (outcome, l)

/-! ### Commands -/

/-- Answers a command that `callbacks` stand for. -/
def answer (f : Filter σ) (next : Place) (c : Command) (l : Link σ) : List Packet × Link σ :=
  match l.runAll f (l.callbacks c) with
  | (.error _, l) => ([.closed], l.drop)
  | (.ok a, l) =>
    (a.mutations.filterMap Packet.ofMutation? ++ [.ofReply a.reply],
      { l with place := next.settled (a.reply ≠ .proceed) })

/-- Carries out a command that is in order: it is a negotiation, it ends something, or it gets an
`answer`. -/
def carryOut (f : Filter σ) (next : Place) (c : Command) (l : Link σ) : List Packet × Link σ :=
  match c with
  | .negotiate offer =>
    match offer.agree? with
    | some agreement => ([.agreed agreement], l)
    | none => ([.closed], l.close f)
  | .connect hostname peer =>
    let (id, filter) := l.filter.connect (peer.map (·.1)) (peer.map (·.2))
      (some hostname |>.filter (!·.isEmpty))
    ([.proceed], { l with session := some id, filter })
  | .abort => ([], l.notify f .abort)
  | .quitKeeping => ([], l.leave f)
  | .quit => ([.closed], l.close f)
  | c => l.answer f next c

/-- Takes a command that is in order, with `carryOut`; macros of later stages are forgotten. -/
def accept (f : Filter σ) (next : Place) (c : Command) (l : Link σ) : List Packet × Link σ :=
  let macros := (c.macroStage?.map fun stage => l.macros.clearAfter stage).getD l.macros
  carryOut f next c { l with place := next, macros }

/-- Takes a command for the place `next` in the order: out of order it is ignored, but nothing keeps the
server from ending the connection. -/
def order (f : Filter σ) (next : Place) (c : Command) (l : Link σ) : List Packet × Link σ :=
  let here := l.place
  let l := if here.abandons next then l.notify f .abort else l
  let l := { l with place := here.fallback next }
  if here.takes next then l.accept f next c
  else if next = .quit then ([.closed], l.close f)
  else ([], l)

/-- Takes a command and answers it: macros are kept, and the rest goes by `order`. -/
def receive (f : Filter σ) (c : Command) (l : Link σ) : List Packet × Link σ :=
  if l.isOpen then
    match c, c.place? with
    | .macros stage values, _ => ([], { l with macros := l.macros.insert stage values })
    | c, some next => l.order f next c
    | _, none => ([], l)
  else ([.closed], l)

end Link

end MailFilter.Milter
