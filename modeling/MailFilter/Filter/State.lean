/-
The state of the filter and what happens to it outside the callbacks.

Requests that checkers have made for after a verdict, and the queue of records, are worked off when
the filter gets to it: `FilterState.settle`.
-/
import MailFilter.Session.Table
import MailFilter.Store.Basic
import MailFilter.Verdict.Judging

namespace MailFilter

/-- A filter: the checkers in its `registry`, and the age at which a session is given up. -/
structure Filter (σ : Type) where
  registry : Registry σ
  maxAgeSecs : Nat

/-- The state of a filter. All that `Filter.step` changes is in here. -/
structure FilterState (σ : Type) where
  /-- The settings that sessions connecting now get. -/
  config : Config := {}
  clock : Timestamp
  /-- How many identifiers have been given out. -/
  serial : Nat := 0
  sessions : SessionTable := {}
  /-- The memory of the checkers. -/
  memory : σ
  metrics : Metrics := {}
  queue : Queue Store
  /-- What modules still have to be told, earliest first. -/
  followUps : List FollowUp := []

namespace Filter

variable {σ : Type}

/-- The longest age that can be measured in milliseconds, in seconds: `Filter.new` takes
no longer one. -/
def maxMeasurableSecs : Nat := 9223372036854775

/-- A filter with the settings `config`. An age beyond `maxMeasurableSecs` counts as a quarter of an
hour. -/
def new (registry : Registry σ) (config : Config) : Filter σ where
  registry
  maxAgeSecs :=
    if config.milter.sessionMaxAgeSecs ≤ maxMeasurableSecs then config.milter.sessionMaxAgeSecs
    else 900

end Filter

namespace FilterState

variable {σ : Type}

/-- Lets time go by: `nanos` nanoseconds. -/
def elapse (nanos : Nat) (st : FilterState σ) : FilterState σ :=
  { st with clock := st.clock.later nanos }

/-- Gives out the next identifier, `Uuid.issued st.serial`. -/
def fresh (st : FilterState σ) : Uuid × FilterState σ :=
  (Uuid.issued st.serial, { st with serial := st.serial + 1 })

/-- Hands the record `r` to the queue. -/
def enqueue (r : Record) (st : FilterState σ) : FilterState σ :=
  { st with queue := st.queue.enqueue r }

/-- Changes a session in its place, by `SessionTable.update`. -/
def update (s : Session) (st : FilterState σ) : FilterState σ :=
  { st with sessions := st.sessions.update s }

/-- Adds to what modules have to be told, for `tellAll` to work it off. -/
def noteFollowUps (followUps : List FollowUp) (st : FilterState σ) : FilterState σ :=
  { st with followUps := st.followUps ++ followUps }

/-- Works off what modules have to be told, each request by `Registry.tell`. -/
def tellAll (f : Filter σ) (st : FilterState σ) : FilterState σ :=
  { st with followUps := [], memory := st.followUps.foldl (f.registry.tell st.clock) st.memory }

/-- Works off what is left to do in the background: modules are told by `tellAll`, and the queue is
drained. -/
def settle (f : Filter σ) (st : FilterState σ) : FilterState σ :=
  let st := st.tellAll f
  { st with queue := st.queue.drain Store.saving }

/-! ### Sessions -/

/-- Opens a session, a `Session.new` with the settings of now. -/
def connect (ip : Option Ip) (port : Option Nat) (reverseDns : Option String)
    (st : FilterState σ) : Uuid × FilterState σ :=
  let (id, st) := st.fresh
  let session := Session.new id st.config st.clock ip port reverseDns
  (id, { st with sessions := st.sessions.insert session })

/-- Ends a session that has been removed: the modules are told by `Registry.sessionEnded`, and the record
`Session.toRecord` goes to the queue. -/
def finish (f : Filter σ) (pruned : Bool) (st : FilterState σ) (s : Session) : FilterState σ :=
  let record := s.toRecord st.clock pruned
  { st with
    memory := f.registry.sessionEnded record st.memory
    queue := st.queue.enqueue (.session record) }

/-- Ends a session that has outlived its age: as `finish` does, and the metrics count it. -/
def evict (f : Filter σ) (st : FilterState σ) (s : Session) : FilterState σ :=
  finish f true { st with metrics := st.metrics.notePruned } s

/-- Removes the session `id`, and lets `finish` end it. -/
def leave (f : Filter σ) (id : Uuid) (st : FilterState σ) : FilterState σ :=
  let (removed, sessions) := st.sessions.remove id
  removed.foldl (finish f false) { st with sessions }

/-- Removes the sessions that have outlived their age at the time `now`, by `SessionTable.removeExpired`,
and ends each with `evict`; yields their number. -/
def prune (f : Filter σ) (now : Timestamp) (st : FilterState σ) : Nat × FilterState σ :=
  let (removed, sessions) := st.sessions.removeExpired f.maxAgeSecs now
  (removed.length, removed.foldl (evict f) { st with sessions })

/-- Replaces the settings of the session `id` for the rest of it. -/
def overrideConfig (id : Uuid) (config : Config) (st : FilterState σ) : FilterState σ :=
  match st.sessions.find? id with
  | some s => st.update (s.overrideConfig config)
  | none => st

end FilterState

end MailFilter
