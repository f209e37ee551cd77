/-
The registry of checkers: their names and channels are unique, and calls are routed to them.

Recipients are put to the enabled checkers one after the other. The first refusal for good ends the
questioning; else the first refusal for now is the answer, and a failed check counts as one.
-/
import MailFilter.Checker.Basic
import MailFilter.Fault

namespace MailFilter

/-- Checkers with unique names and unique channels, as `Registry.new` sees to it. -/
structure Registry (σ : Type) where
  checkers : List (Checker σ)

namespace Registry

variable {σ : Type}

/-! ### Construction -/

/-- The first element that occurs among those before it or in `seen`. -/
def firstRepeated (seen : List String) : List String → Option String
  | [] => none
  | x :: xs => if seen.contains x then some x else firstRepeated (x :: seen) xs

/-- The names in use: of checkers, of one-way channels and of channels with an answer. -/
structure Names where
  checkers : List String := []
  ipc : List String := []
  rpc : List String := []

/-- What is wrong with adding the checker `c` to `names`, if anything is. -/
def Names.fault? (names : Names) (c : Checker σ) : Option ConfigFault :=
  if names.checkers.contains c.name then some (.duplicateModule c.name)
  else match firstRepeated names.ipc (c.ipc.map (·.name)) with
    | some channel => some (.duplicateIpc channel)
    | none => (firstRepeated names.rpc (c.rpc.map (·.name))).map .duplicateRpc

/-- The names in use once `c` has been added. -/
def Names.add (names : Names) (c : Checker σ) : Names :=
  { checkers := c.name :: names.checkers
    ipc := c.ipc.map (·.name) ++ names.ipc
    rpc := c.rpc.map (·.name) ++ names.rpc }

/-- The first fault in a list of checkers, each held against the `Names` of those before it. -/
def fault? (names : Names) : List (Checker σ) → Option ConfigFault
  | [] => none
  | c :: cs =>
    match names.fault? c with
    | some fault => some fault
    | none => fault? (names.add c) cs

/-- The registry of a list of checkers, unless `fault?` finds something wrong. -/
def new (checkers : List (Checker σ)) : Except Fault (Registry σ) :=
  match fault? {} checkers with
  | some fault => .error (.config fault)
  | none => .ok ⟨checkers⟩

/-- The checkers that take part: those whose `enabled` is set. -/
def enabled (r : Registry σ) : List (Checker σ) :=
  r.checkers.filter (·.enabled)

/-- The checker of a name. -/
def find? (r : Registry σ) (name : String) : Option (Checker σ) :=
  r.checkers.find? fun c => c.name == name

/-! ### Starting and stopping -/

/-- Starts checkers in their order, each by its `start`, up to the first failure. -/
def startAll : List (Checker σ) → σ → Except Fault Unit × σ
  | [], s => (.ok (), s)
  | c :: cs, s =>
    match c.start s with
    | (.ok (), s) => startAll cs s
    | (.error text, s) => (.error (.module (c.name ++ ": " ++ text)), s)

/-- Starts the checkers that are `enabled`. -/
def start (r : Registry σ) : σ → Except Fault Unit × σ :=
  startAll r.enabled

/-- Stops the checkers that are `enabled`, whether or not they fail to. -/
def stop (r : Registry σ) (s : σ) : σ :=
  r.enabled.foldl (fun s c => (c.stop s).2) s

/-- Tells the checkers that are `enabled`, in their order, that a session has ended. -/
def sessionEnded (r : Registry σ) (record : SessionRecord) (s : σ) : σ :=
  r.enabled.foldl (fun s c => c.sessionEnded record s) s

/-! ### Channels -/

/-- The one-way channels of all checkers. -/
def ipc (r : Registry σ) : List (Channel σ Unit) :=
  r.checkers.flatMap (·.ipc)

/-- The channels with an answer of all checkers. -/
def rpc (r : Registry σ) : List (Channel σ Json) :=
  r.checkers.flatMap (·.rpc)

/-- The sorted names of channels. -/
def channelNames {α : Type} (channels : List (Channel σ α)) : List String :=
  (channels.map (·.name)).mergeSort (· ≤ ·)

/-- Delivers a payload to the first channel with the `name`, or says which `kind` there
is no channel of. -/
def deliver {α : Type} (kind : String) (channels : List (Channel σ α)) (name : String)
    (payload : Json) (s : σ) : Except Fault α × σ :=
  match channels.find? fun c => c.name == name with
  | none => (.error (.module ("Unknown " ++ kind ++ " channel: " ++ name)), s)
  | some c =>
    match c.handle payload s with
    | (.ok a, s) => (.ok a, s)
    | (.error text, s) => (.error (.module (kind ++ " " ++ name ++ " failed: " ++ text)), s)

/-- Delivers a payload to a one-way channel, one of `ipc`. -/
def dispatchIpc (r : Registry σ) : String → Json → σ → Except Fault Unit × σ :=
  deliver "IPC" r.ipc

/-- Calls a channel with an answer, one of `rpc`. -/
def callRpc (r : Registry σ) : String → Json → σ → Except Fault Json × σ :=
  deliver "RPC" r.rpc

/-! ### Recipients -/

/-- What a failed recipient check tells the client, by `answerOf`. -/
def gateFailureText : String := "Temporary failure checking recipient"

/-- The answer that an outcome amounts to, unless it is a panic. -/
def answerOf : GateOutcome → Except Panic RecipientVerdict
  | .verdict v => .ok v
  | .failed _ => .ok (.tempfail gateFailureText)
  | .panicked p => .error p

/-- Where the questioning about a recipient stands. -/
inductive Gating (σ : Type) where
  /-- It is over. -/
  | decided (answer : Except Panic RecipientVerdict)
  /-- A check goes on for some milliseconds; the other checkers have not been asked yet. -/
  | waiting (delayMs : Nat) (outcome : GateOutcome) (deferred : Option RecipientVerdict)
      (rest : List (Checker σ))

/-- The refusal for now to remember after the answer `v`: the first one, and `gateFailureText` if the
check has failed. -/
def remember (deferred : Option RecipientVerdict) (v : RecipientVerdict) :
    Option RecipientVerdict :=
  match v.action with
  | .tempfail | .error => deferred.or (some (.tempfail v.message))
  | .permit | .reject => deferred

/-- Puts a recipient to checkers until one takes its time or the answer is clear. `deferred` is the
refusal for now that there is already. -/
def askFrom (connection : Connection) (recipient : Address) (deferred : Option RecipientVerdict) :
    List (Checker σ) → σ → Gating σ × σ
  | [], s => (.decided (.ok (deferred.getD .permit)), s)
  | c :: cs, s =>
    let (run, s) := c.gate connection recipient s
    if run.delayMs = 0 then
      match answerOf run.outcome with
      | .error p => (.decided (.error p), s)
      | .ok v =>
        if v.action = .reject then (.decided (.ok v), s)
        else askFrom connection recipient (remember deferred v) cs s
    else (.waiting run.delayMs run.outcome deferred cs, s)

/-- Puts a recipient to the checkers that are `enabled`, with `askFrom`. -/
def ask (r : Registry σ) (connection : Connection) (recipient : Address) : σ → Gating σ × σ :=
  askFrom connection recipient none r.enabled

/-- Goes on with `askFrom` after a check that has taken its time and ended in `outcome`. -/
def askOn (connection : Connection) (recipient : Address) (outcome : GateOutcome)
    (deferred : Option RecipientVerdict) (rest : List (Checker σ)) (s : σ) : Gating σ × σ :=
  match answerOf outcome with
  | .error p => (.decided (.error p), s)
  | .ok v =>
    if v.action = .reject then (.decided (.ok v), s)
    else askFrom connection recipient (remember deferred v) rest s

/-- The answer for a recipient when all checks are waited for; `askFrom` stops at each of them that takes
its time. -/
def recipientCheckFrom (connection : Connection) (recipient : Address)
    (deferred : Option RecipientVerdict) :
    List (Checker σ) → σ → Except Panic RecipientVerdict × σ
  | [], s => (.ok (deferred.getD .permit), s)
  | c :: cs, s =>
    let (run, s) := c.gate connection recipient s
    match answerOf run.outcome with
    | .error p => (.error p, s)
    | .ok v =>
      if v.action = .reject then (.ok v, s)
      else recipientCheckFrom connection recipient (remember deferred v) cs s

/-- The answer of the checkers that are `enabled` for a recipient. -/
def recipientCheck (r : Registry σ) (connection : Connection) (recipient : Address) :
    σ → Except Panic RecipientVerdict × σ :=
  recipientCheckFrom connection recipient none r.enabled

end Registry

end MailFilter
