/-
Checkers: what takes part in judging recipients and messages.

A checker works on a memory of type `σ` that all checkers share, and says of each check how long it
takes and how it ends. Of `check` and `gate` nothing else is assumed: they may answer, abstain, fail or
panic. The other hooks are taken to return; in particular `sessionEnded` has no panicked outcome, so
that a session that ends is always finished.
-/
import MailFilter.Record

namespace MailFilter

/-- A panic; its reason is lost unless it was given as text. -/
structure Panic where
  text : Option String
  deriving DecidableEq, Repr

/-- The reason of a panic as far as it is known, for `Failure.panicked`. -/
def Panic.reason (p : Panic) : String :=
  p.text.getD "unknown panic"

/-- What a message check sees. -/
structure CheckContext where
  connection : Connection
  message : Message

/-- How a message check ends. `Judging.resultOf` says which result it amounts to. -/
inductive CheckOutcome where
  | opinion (result : CheckResult Float)
  | abstained
  | failed (reason : String)
  | panicked (panic : Panic)

/-- A message check that has been started: its `outcome`, and after how many milliseconds. -/
structure CheckRun where
  delayMs : Nat := 0
  outcome : CheckOutcome
  /-- Whether the check abstains at once when it is cancelled. -/
  cancellable : Bool := false

/-- The answer of a recipient check. -/
structure RecipientVerdict where
  action : Action
  message : String
  deriving DecidableEq, Repr

namespace RecipientVerdict

/-- Accepts a recipient, with the action `Action.permit`. -/
def permit : RecipientVerdict := ⟨.permit, ""⟩

/-- Refuses a recipient for good. -/
def reject (message : String) : RecipientVerdict := ⟨.reject, message⟩

/-- Refuses a recipient for now. -/
def tempfail (message : String) : RecipientVerdict := ⟨.tempfail, message⟩

end RecipientVerdict

/-- How a recipient check ends. `Registry.answerOf` says which answer it amounts to. -/
inductive GateOutcome where
  | verdict (verdict : RecipientVerdict)
  | failed (reason : String)
  | panicked (panic : Panic)
  deriving DecidableEq, Repr

/-- A recipient check that has been started: its `outcome`, and after how many milliseconds. -/
structure GateRun where
  delayMs : Nat := 0
  outcome : GateOutcome

/-- A named way in for messages from outside: `handle` is what it does with a payload and the memory. -/
structure Channel (σ α : Type) where
  name : String
  handle : Json → σ → Except String α × σ

/-- A checker on a shared memory. -/
structure Checker (σ : Type) where
  name : String
  enabled : Bool := true
  start : σ → Except String Unit × σ := fun s => (.ok (), s)
  stop : σ → Except String Unit × σ := fun s => (.ok (), s)
  /-- Starts the check of a complete message. -/
  check : CheckContext → Timestamp → σ → CheckRun × σ := fun _ _ s => ({ outcome := .abstained }, s)
  /-- What happens when a check that can be cancelled is cancelled. -/
  cancelled : σ → σ := id
  /-- Starts the check of a recipient. -/
  gate : Connection → Address → σ → GateRun × σ :=
    fun _ _ s => ({ outcome := .verdict .permit }, s)
  /-- What happens when a session has ended. It is taken to return: unlike `check` and `gate`, which
  may end in `panicked`, it only says what becomes of the memory. -/
  sessionEnded : SessionRecord → σ → σ := fun _ s => s
  /-- What the checker does with a request of its own once the final disposition is known. -/
  followUp : String → Action → Timestamp → σ → σ := fun _ _ _ s => s
  ipc : List (Channel σ Unit) := []
  rpc : List (Channel σ Json) := []

/-- A part `τ` of a memory `σ`: what `set` puts there, `get` finds. -/
structure Focus (σ τ : Type) where
  get : σ → τ
  set : τ → σ → σ

namespace Focus

variable {σ τ : Type}

/-- The first part of a pair, as a `Focus`. -/
def fst : Focus (σ × τ) σ := ⟨Prod.fst, fun a s => (a, s.2)⟩

/-- The second part of a pair, as a `Focus`. -/
def snd : Focus (σ × τ) τ := ⟨Prod.snd, fun b s => (s.1, b)⟩

/-- Works on the part with `f`, and puts what is left of it back. -/
def run {α : Type} (l : Focus σ τ) (f : τ → α × τ) (s : σ) : α × σ :=
  let (a, t) := f (l.get s)
  (a, l.set t s)

/-- Changes the part by `f`. -/
def modify (l : Focus σ τ) (f : τ → τ) (s : σ) : σ :=
  l.set (f (l.get s)) s

end Focus

/-- The channel `c`, working on the part `l` of the memory. -/
def Channel.focus {σ τ α : Type} (l : Focus σ τ) (c : Channel τ α) : Channel σ α :=
  ⟨c.name, fun payload => l.run (c.handle payload)⟩

/-- The checker `c`, working on the part `l` of the memory. -/
def Checker.focus {σ τ : Type} (l : Focus σ τ) (c : Checker τ) : Checker σ where
  name := c.name
  enabled := c.enabled
  start := l.run c.start
  stop := l.run c.stop
  check ctx now := l.run (c.check ctx now)
  cancelled := l.modify c.cancelled
  gate connection recipient := l.run (c.gate connection recipient)
  sessionEnded record := l.modify (c.sessionEnded record)
  followUp token action now := l.modify (c.followUp token action now)
  ipc := c.ipc.map (Channel.focus l)
  rpc := c.rpc.map (Channel.focus l)

end MailFilter
