/-
Judging a message: all enabled checkers are started at once, and what they find is taken in as it
arrives.

A check that fails, panics or exceeds its time counts as a result with the error score. Once
collection stops, the checks that can be cancelled are, and the others still run to their end: what
they find is measured but not collected.
-/
import MailFilter.Checker.Registry
import MailFilter.Metrics.Basic
import MailFilter.Verdict.Collection

namespace MailFilter

/-- What comes of a started check, and when: `arrivalOf` says it of a `CheckRun`. -/
structure Arrival (σ : Type) where
  atMs : Nat
  /-- The place of the checker among the enabled ones. -/
  place : Nat
  /-- The result, unless the check abstains. -/
  result : Option (CheckResult Float)
  /-- What cancelling the check does, if it can be cancelled. -/
  onCancel : Option (σ → σ) := none

/-- A message being judged: what has been collected of its checks, and what is `pending`. -/
structure Judging (σ : Type) where
  scoring : Scoring Float
  /-- What is still to arrive, the earliest first. -/
  pending : List (Arrival σ)
  /-- How long judging has gone on. -/
  elapsedMs : Nat := 0
  collection : Collection Float := .empty

namespace Judging

variable {σ : Type}

/-! ### Starting -/

/-- The result that an outcome amounts to: a failure has the `errorScore`, and a check that has abstained
has none. -/
def resultOf (module : String) (errorScore : Float) : CheckOutcome → Option (CheckResult Float)
  | .opinion r => some r
  | .abstained => none
  | .failed reason => some (.failed module reason errorScore)
  | .panicked p => some (.failed module p.reason errorScore)

/-- What comes of a check that has been started, if `timeoutMs` is the limit: a check that is not over by
then fails. -/
def arrivalOf (timeoutMs : Nat) (errorScore : Float) (c : Checker σ) (place : Nat) (run : CheckRun) :
    Arrival σ :=
  let atMs := min run.delayMs timeoutMs
  let result :=
    if timeoutMs < run.delayMs then some (.failed c.name "timed out" errorScore)
    else resultOf c.name errorScore run.outcome
  { atMs, place
    result := result.map fun r => { r with module := c.name, elapsedMs := atMs }
    onCancel := if run.cancellable then some c.cancelled else none }

/-- Starts checkers in their order, of which the first has the number `place`. -/
def startAll (config : Config) (ctx : CheckContext) (now : Timestamp) (place : Nat) :
    List (Checker σ) → σ → List (Arrival σ) × σ
  | [], s => ([], s)
  | c :: cs, s =>
    let (run, s) := c.check ctx now s
    let arrival := arrivalOf config.milter.moduleTimeoutMs config.scoring.errorScore c place run
    let (arrivals, s) := startAll config ctx now (place + 1) cs s
    (arrival :: arrivals, s)

/-- Whether an arrival comes before another one: of two at the same time, the one of the earlier
checker. -/
def precedes (a b : Arrival σ) : Bool :=
  a.atMs < b.atMs || (a.atMs = b.atMs && a.place ≤ b.place)

/-- Starts to judge a message: `startAll` the checkers that are enabled, and sort what comes of them by
`precedes`. -/
def start (registry : Registry σ) (config : Config) (ctx : CheckContext) (now : Timestamp) (s : σ) :
    Judging σ × σ :=
  let (arrivals, s) := startAll config ctx now 0 registry.enabled s
  ({ scoring := config.scoring, pending := arrivals.mergeSort precedes }, s)

/-! ### Taking in -/

/-- Measures a result: its duration, and whether it is an error. -/
def measure (r : CheckResult Float) (m : Metrics) : Metrics :=
  let m := m.noteDuration r.module (Float.ofNat r.elapsedMs / 1000.0)
  if r.action = .error then m.noteError r.module else m

/-- Whether the arrival `a` belongs to a check that can still be cancelled. -/
def isCancellable (j : Judging σ) (a : Arrival σ) : Bool :=
  a.onCancel.isSome && j.elapsedMs < a.atMs

/-- Cancels the checks that are `isCancellable`, in the order of their checkers. -/
def cancel (j : Judging σ) (s : σ) : Judging σ × σ :=
  let cancelled := (j.pending.filter j.isCancellable).mergeSort fun a b => a.place ≤ b.place
  ({ j with pending := j.pending.filter fun a => !j.isCancellable a },
    cancelled.foldl (fun s a => (a.onCancel.getD id) s) s)

/-- Takes in the arrival `a`, which is no longer `pending`: its result is measured and collected, and if
the breaker trips the rest is cancelled. -/
def receive (a : Arrival σ) (j : Judging σ) (m : Metrics) (s : σ) : Judging σ × Metrics × σ :=
  let before := { j with elapsedMs := a.atMs }
  match a.result with
  | none => (before, m, s)
  | some r =>
    let after := { before with collection := j.collection.add j.scoring a.place r }
    if after.collection.tripped && !j.collection.tripped then
      let (after, s) := after.cancel s
      (after, measure r m, s)
    else (after, measure r m, s)

theorem length_pending_receive_le (a : Arrival σ) (j : Judging σ) (m : Metrics) (s : σ) :
    (receive a j m s).1.pending.length ≤ j.pending.length := by
  unfold receive
  split
  · exact Nat.le_refl _
  · simp only
    split
    · simp only [cancel]
      exact List.length_filter_le ..
    · exact Nat.le_refl _

/-- Takes in what arrives for as long as it passes `p`. -/
def receiveWhile (p : Arrival σ → Bool) (j : Judging σ) (m : Metrics) (s : σ) :
    Judging σ × Metrics × σ :=
  match _h : j.pending with
  | [] => (j, m, s)
  | a :: rest =>
    if p a then
      let next := receive a { j with pending := rest } m s
      receiveWhile p next.1 next.2.1 next.2.2
    else (j, m, s)
termination_by j.pending.length
decreasing_by exact Nat.lt_of_le_of_lt (length_pending_receive_le ..) (by simp [_h])

/-- Takes in all that arrives until `untilMs`. -/
def advance (untilMs : Nat) : Judging σ → Metrics → σ → Judging σ × Metrics × σ :=
  receiveWhile fun a => a.atMs ≤ untilMs

/-- Takes in all that is still `pending`. -/
def finish : Judging σ → Metrics → σ → Judging σ × Metrics × σ :=
  receiveWhile fun _ => true

/-- How many milliseconds are left until the next arrival; there is none once nothing is `pending`. -/
def waitMs? (j : Judging σ) : Option Nat :=
  j.pending.head?.map fun a => a.atMs - j.elapsedMs

/-- The verdict on what has been collected, by `Collection.verdict`. -/
def verdict (j : Judging σ) : Verdict Float :=
  j.collection.verdict j.scoring

end Judging

/-- Judges a message to the end: `Judging.start`, and `Judging.finish`. -/
def Registry.judge {σ : Type} (registry : Registry σ) (config : Config) (ctx : CheckContext)
    (now : Timestamp) (m : Metrics) (s : σ) : Verdict Float × Metrics × σ :=
  let (j, s) := Judging.start registry config ctx now s
  let (j, m, s) := j.finish m s
  (j.verdict, m, s)

/-! ### After the verdict -/

/-- What a module wants to be told with the final disposition: its own `token`, and the action. -/
structure FollowUp where
  module : String
  token : String
  action : Action
  deriving DecidableEq, Repr

/-- What the collected results want to be told, now that `action` is the disposition: each token of each
of them. -/
def Verdict.followUps (v : Verdict Float) (action : Action) : List FollowUp :=
  v.results.flatMap fun r => r.followUps.map fun token => ⟨r.module, token, action⟩

/-- Tells a module what it wants to be told, by its `followUp`. -/
def Registry.tell {σ : Type} (registry : Registry σ) (now : Timestamp) (s : σ) (f : FollowUp) : σ :=
  match registry.find? f.module with
  | some c => c.followUp f.token f.action now s
  | none => s

end MailFilter
