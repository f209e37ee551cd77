/-
Rehearsals: a filter is put through a course of operations in virtual time.

Time passes only while something waits. Two callbacks may race: the one that started first goes on
in the background, and whenever it would go on no later than the other one, it does.
-/
import MailFilter.Filter.Run

namespace MailFilter

/-- One operation on a filter. -/
inductive Operation where
  | connect (ip : Option Ip) (port : Option Nat) (reverseDns : Option String)
  /-- A callback; `settles` tells whether what is left to do is worked off after it. -/
  | callback (session : Option Uuid) (callback : Callback) (settles : Bool)
  /-- A sweep as if it were some seconds later. -/
  | prune (laterSecs : Int)
  /-- The background sweeper for a while; without an interval it does not sweep at all. -/
  | sweep (intervalSecs : Nat)
  | countSessions
  | findSession (session : Option Uuid) (stage : Stage)
  /-- Nothing but a look at a session. -/
  | look (session : Option Uuid)
  | overrideConfig (session : Option Uuid) (config : Config)
  | replaceConfig (config : Config)
  | deliver (channel : String) (payload : Json)
  | sleep (ms : Nat)
  | shutdown
  | showMetrics

/-- What comes of an `Operation`. -/
inductive Report where
  | opened (session : Uuid)
  | answered (callback : Callback) (outcome : Except Panic Answer)
  | counted (n : Nat)
  | found (result : Except Failure Unit)
  | delivered (result : Except Fault Unit)
  | nothing
  | metrics (metrics : Metrics)

/-- Where a session stands after an `Operation`. -/
structure Standing where
  position : Position
  messages : Nat
  isOpen : Bool
  deriving DecidableEq, Repr

/-- What is seen of an operation: what comes of it, as a `Report`, and where its session stands then. -/
structure Sighting where
  report : Report
  standing : Option Standing
  /-- The messages of all sessions. -/
  messages : List Uuid

/-- A callback in the background. -/
inductive Background (σ : Type) where
  | none
  /-- It goes on at a point in virtual time. -/
  | running (session : Option Uuid) (callback : Callback) (dueMs : Nat) (task : Task σ)
  | over (sighting : Sighting)

namespace Rehearsal

variable {σ : Type}

/-- The session of an operation. -/
def sessionOf : Operation → Option Uuid
  | .callback id _ _ | .findSession id _ | .look id | .overrideConfig id _ => id
  | _ => none

/-- Where the session `id` stands, if it can be found. -/
def standingOf (st : FilterState σ) (id : Option Uuid) : Option Standing :=
  (id.bind st.sessions.find?).map fun s => ⟨s.position, s.messages.length, s.current?.isSome⟩

/-- What is seen of an operation on the session `id`, with its `report`. -/
def sighting (st : FilterState σ) (id : Option Uuid) (report : Report) : Sighting where
  report
  standing := standingOf st id
  messages := st.sessions.entries.flatMap fun e => e.session.messages.map (·.id)

/-- How much time goes by between two steps, in nanoseconds. -/
def tick : Nat := 1000

/-! ### In the background -/

/-- For how many answers a callback in the background may still have to wait. -/
def remaining (f : Filter σ) : Background σ → Nat
  | .running _ _ _ task => task.remaining f
  | _ => 0

/-- Lets the callback in the background go on up to the point `untilMs` in virtual time. -/
def letRun (f : Filter σ) (untilMs : Nat) (b : Background σ) (st : FilterState σ) :
    Background σ × FilterState σ :=
  match b with
  | .running id c dueMs task =>
    if dueMs ≤ untilMs then
      match _h : f.resume task (st.settle f) with
      | (.done outcome, st) =>
        (.over (sighting st id (.answered c outcome)), st.settle f)
      | (.waiting ms next, st) => letRun f untilMs (.running id c (dueMs + ms) next) st
    else (.running id c dueMs task, st)
  | other => (other, st)
termination_by remaining f b
decreasing_by exact Filter.remaining_lt_of_resume (congrArg Prod.fst _h)

/-- Lets the callback in the background come to its end, by `Filter.finish`. -/
def letFinish (f : Filter σ) (b : Background σ) (st : FilterState σ) :
    Background σ × FilterState σ :=
  match b with
  | .running id c _ task =>
    let (outcome, st) := f.finish task st
    (.over (sighting st id (.answered c outcome)), st.settle f)
  | other => (other, st)

/-! ### One operation -/

/-- The virtual time and what goes on in it. -/
structure Scene (σ : Type) where
  nowMs : Nat := 0
  background : Background σ := .none
  state : FilterState σ

namespace Scene

/-- Lets virtual time go by, in which `letRun` goes on in the background. -/
def pass (f : Filter σ) (ms : Nat) (scene : Scene σ) : Scene σ :=
  let untilMs := scene.nowMs + ms
  let (background, state) := letRun f untilMs scene.background (scene.state.settle f)
  { nowMs := untilMs, background, state := state.settle f }

/-- Goes on with a callback until it is over, while time goes by with `pass`. -/
def finish (f : Filter σ) (task : Task σ) (ms : Nat) (scene : Scene σ) :
    Except Panic Answer × Scene σ :=
  let scene := scene.pass f ms
  match _h : f.resume task scene.state with
  | (.done outcome, state) => (outcome, { scene with state })
  | (.waiting ms next, state) => finish f next ms { scene with state }
termination_by task.remaining f
decreasing_by exact Filter.remaining_lt_of_resume (congrArg Prod.fst _h)

/-- Runs a callback to its end, while time goes by: it goes on with `finish`. -/
def call (f : Filter σ) (id : Option Uuid) (c : Callback) (scene : Scene σ) :
    Except Panic Answer × Scene σ :=
  match f.start id c scene.state with
  | (.done outcome, state) => (outcome, { scene with state })
  | (.waiting ms task, state) => finish f task ms { scene with state }

/-- Works off what is left to do in the background, with `FilterState.settle`. -/
def settle (f : Filter σ) (scene : Scene σ) : Scene σ :=
  { scene with state := scene.state.settle f }

/-- Carries out an operation. -/
def carryOut (f : Filter σ) (op : Operation) (scene : Scene σ) : Report × Scene σ :=
  let st := scene.state
  match op with
  | .connect ip port reverseDns =>
    let (id, state) := st.connect ip port reverseDns
    (.opened id, { scene with state })
  | .callback id c settles =>
    let (outcome, scene) := scene.call f id c
    (.answered c outcome, if settles then scene.settle f else scene)
  | .prune laterSecs =>
    let (n, state) := st.prune f (st.clock.laterSecs laterSecs)
    (.counted n, { scene with state })
  | .sweep intervalSecs =>
    let state := st.settle f
    let state := if intervalSecs = 0 then state else (state.prune f state.clock).2
    (.counted state.sessions.live.length, { scene with state := state.settle f })
  | .countSessions => (.counted st.sessions.live.length, scene)
  | .findSession id stage =>
    (.found (if (id.bind st.sessions.find?).isSome then .ok () else .error (.noSession stage)), scene)
  | .look _ => (.nothing, scene)
  | .overrideConfig id config =>
    (.nothing, { scene with state := (id.map fun id => st.overrideConfig id config).getD st })
  | .replaceConfig config => (.nothing, { scene with state := { st with config } })
  | .deliver channel payload =>
    let (result, memory) := f.registry.dispatchIpc channel payload st.memory
    (.delivered result, { scene with state := { st with memory } })
  | .sleep ms => (.nothing, scene.pass f ms)
  | .shutdown =>
    let state := st.settle f
    let queue := state.queue.shutdown Store.saving
    let archive := queue.store.archive
    (.counted (archive.messages.length + archive.sessions.length),
      { scene with state := { state with queue } })
  | .showMetrics => (.metrics st.metrics, scene)

/-- Carries out an operation with `carryOut`, a `tick` after the one before it. -/
def perform (f : Filter σ) (op : Operation) (scene : Scene σ) : Sighting × Scene σ :=
  let (report, scene) := carryOut f op { scene with state := scene.state.elapse tick }
  (sighting scene.state (sessionOf op) report, scene)

/-- Carries out operations one after the other, each by `perform`. -/
def performAll (f : Filter σ) (ops : List Operation) (scene : Scene σ) :
    List Sighting × Scene σ :=
  match ops with
  | [] => ([], scene)
  | op :: rest =>
    let (seen, scene) := perform f op scene
    let (others, scene) := performAll f rest scene
    (seen :: others, scene)

end Scene

/-! ### Operations and races -/

/-- Carries out an operation on its own, with nothing in the background of the `Scene`. -/
def perform (f : Filter σ) (op : Operation) (st : FilterState σ) : Sighting × FilterState σ :=
  let (seen, scene) := Scene.perform f op { state := st }
  (seen, scene.state)

/-- What is seen of a callback in the background that is over. -/
def sightingOf (st : FilterState σ) : Background σ → Sighting
  | .over seen => seen
  | _ => sighting st none .nothing

/-- Starts a callback and carries out operations after `afterMs`, whether or not it is over then: what is
seen of the callback and of the operations. -/
def race (f : Filter σ) (id : Option Uuid) (c : Callback) (afterMs : Nat) (ops : List Operation)
    (st : FilterState σ) : Sighting × List Sighting × FilterState σ :=
  let (progress, st) := f.start id c (st.elapse tick)
  let (background, st) := match progress with
    | .done outcome => (.over (sighting st id (.answered c outcome)), st.settle f)
    | .waiting ms task => (.running id c ms task, st)
  let scene : Scene σ := ({ background, state := st } : Scene σ).pass f afterMs
  let (seen, scene) := Scene.performAll f ops scene
  let (background, st) := letFinish f scene.background scene.state
  (sightingOf st background, seen, st.settle f)

/-- Lets everything that is left to do be done by `settle`, and closes the queue of records with
`shutdown`. -/
def finish (f : Filter σ) (st : FilterState σ) : FilterState σ :=
  let st := st.settle f
  { st with queue := st.queue.shutdown Store.saving }

end Rehearsal

end MailFilter
