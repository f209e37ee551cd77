/-
The callbacks of the mail server.

The work of a callback is a row of small tasks: each locks the session at most once, and between two
of them other callbacks may change it. `Filter.step` carries out one task and tells which one follows;
a task may have to wait, for the checkers that a recipient is put to or for the checks of a message.
Whatever goes wrong becomes a reply; only a panic leaves the filter, and only if the settings ask for
that.
-/
import MailFilter.Filter.Reply
import MailFilter.Filter.State
import MailFilter.Message.Compose
import MailFilter.Session.Change

namespace MailFilter

/-- A callback within a session, with what the server reports by it. -/
inductive Callback where
  | helo (helo : String) (tls : Tls)
  /-- `MAIL FROM` with its arguments: the sender and parameters. -/
  | envFrom (args : List String) (sasl : Sasl)
  /-- `RCPT TO` with its arguments. -/
  | envRcpt (args : List String)
  | header (key value : String)
  | eoh (queueId : Option String) (sasl : Sasl)
  | body (chunk : List UInt8)
  | eom (queueId : Option String)
  | abort
  | close

/-- The stage of a callback, by which `Session.advance` moves. -/
def Callback.stage : Callback → Stage
  | helo .. => .helo
  | envFrom .. => .envFrom
  | envRcpt .. => .envRcpt
  | header .. => .header
  | eoh .. => .eoh
  | body .. => .body
  | eom .. => .eom
  | abort => .abort
  | close => .close

/-- What a callback changes in the session at first. `message` is the identifier for a message that it
opens, and `now` the time. -/
def Callback.change (message : Uuid) (now : Timestamp) : Callback → SessionChange
  | helo h tls => SessionChange.greet h tls
  | envFrom args sasl => SessionChange.envFrom message now args sasl
  | envRcpt _ => SessionChange.envRcpt
  | header key value => SessionChange.header key value
  | eoh queueId sasl => SessionChange.eoh queueId sasl
  | body chunk => SessionChange.body chunk
  | eom queueId => SessionChange.eom queueId
  | abort => SessionChange.abort
  | close => Change.look fun _ => ()

/-- Why the work of a callback is cut short. It is answered by `answerInterruption`. -/
inductive Interruption where
  | failure (failure : Failure)
  | panic (panic : Panic)

/-! ### Rulings -/

/-- The verdict that counts for a message, with the settings and the facts it rests on: those of when the
message was complete. `Filter.judgeOn` makes it. -/
structure Ruling where
  session : Uuid
  config : Config
  ctx : CheckContext
  verdict : Verdict Float

/-- The verdict that counts: `v`, unless the client is on the allow list, which is never refused. -/
def Verdict.effective (allowListed : Bool) (v : Verdict Float) : Verdict Float :=
  if allowListed && v.action != .permit then { v with action := .permit, message := "" } else v

namespace Ruling

/-- What the header templates of `compose` are filled in with. -/
def composing (r : Ruling) : ComposeContext :=
  { hostname := r.config.hostname, spamFlagThreshold := r.config.scoring.spamFlagThreshold
    message := r.ctx.message, verdict := r.verdict }

/-- Whether the message is delivered: when nothing is enforced, it is whatever the verdict. -/
def delivers (r : Ruling) : Bool :=
  r.config.milter.noop || r.verdict.action = .permit

/-- The changes to the headers that the verdict entails, by `ComposeContext.compose`. There are none for
a message that is refused. -/
def mutations (r : Ruling) : List HeaderMutation :=
  if r.delivers then r.composing.compose r.config.headers else []

/-- Carries out `mutations` on the headers of the message: all but the Message-Id that it has been given
already, for which `Message.hasAdded` looks. -/
def rewrite (r : Ruling) : Change Message Unit := fun m =>
  Change.all ((r.mutations.filter fun change => !m.hasAdded change).map fun change =>
    Change.whole fun m => m.mutate change) m

/-- Records the verdict on the open message, which must be the one that has been judged: `rewrite`
changes its headers, `Message.finalize` puts the verdict there, and the record is yielded. -/
def conclude (r : Ruling) : Change Message MessageRecord := fun m =>
  if m.id = r.ctx.message.id then
    (r.rewrite.andThen
      ((Change.whole fun m => m.finalize r.verdict).andThen (Change.look Message.toRecord))) m
  else (.error (.noMessage .eom), m)

/-- The answer to the mail server: the reply `Reply.ofVerdict`, with `mutations`. -/
def answer (r : Ruling) : Answer where
  reply :=
    if r.config.milter.noop then .proceed
    else Reply.ofVerdict r.verdict.action r.verdict.message r.ctx.message.queueId
  mutations := r.mutations

end Ruling

/-! ### Tasks -/

/-- What is to be done next for a callback. `Filter.step` carries it out. -/
inductive Task (σ : Type) where
  /-- The session has been found. -/
  | called (session : Uuid) (callback : Callback)
  /-- A recipient is about to be put to the checkers. -/
  | asking (session : Uuid) (connection : Connection) (recipient : Address)
  /-- A recipient is with a checker; the checkers after it have not been asked yet. -/
  | gating (session : Uuid) (connection : Connection) (recipient : Address)
      (outcome : GateOutcome) (deferred : Option RecipientVerdict) (rest : List (Checker σ))
  /-- The checkers have answered for a recipient. -/
  | gated (session : Uuid) (connection : Connection) (recipient : Address)
      (answer : RecipientVerdict)
  /-- A message is complete, and this is what its checks will see. -/
  | complete (session : Uuid) (config : Config) (ctx : CheckContext)
  /-- A message is being judged. -/
  | judging (session : Uuid) (config : Config) (ctx : CheckContext) (judging : Judging σ)
  /-- There is a verdict, to be recorded on the message. -/
  | ruled (ruling : Ruling)
  /-- The verdict has been recorded; the modules want to be told. -/
  | concluded (ruling : Ruling) (record : MessageRecord)
  /-- The modules are being told; the record is to be handed to the queue. -/
  | told (ruling : Ruling) (record : MessageRecord)
  /-- The work has been cut short, and the server waits for an answer. -/
  | interrupted (stage : Stage) (session : Option Uuid) (reason : Interruption)

/-- How far a callback has come: `done`, or on its way to the `next` task. -/
inductive Progress (σ : Type) where
  | done (outcome : Except Panic Answer)
  /-- It goes on at once. -/
  | next (task : Task σ)
  /-- It has to wait for some milliseconds. -/
  | waiting (ms : Nat) (task : Task σ)

/-- The task of a callback that is not `done`. -/
def Progress.task? {σ : Type} : Progress σ → Option (Task σ)
  | done _ => none
  | next task | waiting _ task => some task

/-- A callback that is over with a reply. -/
def Progress.replied {σ : Type} (reply : Reply) : Progress σ :=
  .done (.ok { reply })

/-- A callback that has failed and is to be answered for it. -/
def Progress.failed {σ : Type} (stage : Stage) (id : Option Uuid) (e : Failure) : Progress σ :=
  .next (.interrupted stage id (.failure e))

namespace Filter

variable {σ : Type}

/-! ### The boundary -/

/-- Answers a failed callback with `Reply.ofFailure`. A failure that the session cannot survive fails the
session. -/
def answerFailure (stage : Stage) (id : Option Uuid) (e : Failure) (st : FilterState σ) :
    Progress σ × FilterState σ :=
  let st := { st with metrics := st.metrics.noteFailure stage e.isViolation }
  match id.bind st.sessions.find? with
  | some s =>
    (.replied (.ofFailure s.isAllowListed e), if e.isFatal then st.update s.fail else st)
  | none => (.replied (.ofFailure false e), st)

/-- Answers a callback whose work was cut short, by `answerFailure`, or lets a panic out if the settings
of now say so. -/
def answerInterruption (stage : Stage) (id : Option Uuid) (st : FilterState σ) :
    Interruption → Progress σ × FilterState σ
  | .failure e => answerFailure stage id e st
  | .panic p =>
    let st := { st with metrics := st.metrics.notePanic }
    if st.config.milter.propagatePanics then (.done (.error p), st)
    else answerFailure stage id (.panicked p.reason) st

/-- Applies `change` to a session that a callback holds, found by `SessionTable.held?` whether or not it
can be found otherwise. -/
def changeHeld {β : Type} (id : Uuid) (stage : Stage) (change : Change Session β) :
    Change (FilterState σ) β := fun st =>
  match st.sessions.held? id with
  | some s => ((change s).1, st.update (change s).2)
  | none => (.error (.noSession stage), st)

/-- Locks a session that a callback holds, applies `change`, and goes on with `next`, or with the
failure. -/
def locked {β : Type} (id : Uuid) (stage : Stage) (change : Change Session β)
    (next : β → Progress σ) (st : FilterState σ) : Progress σ × FilterState σ :=
  match changeHeld id stage change st with
  | (.ok b, st) => (next b, st)
  | (.error e, st) => (.failed stage (some id) e, st)

/-! ### Calls -/

/-- What a callback goes on with once it has changed its session to `s`: a recipient is put to the
checkers, a complete message is judged, and anything else is over. -/
def follow (s : Session) : Callback → Progress σ
  | .envRcpt (arg :: _) => .next (.asking s.id s.connection (Address.ofArgument arg))
  | .eom _ =>
    match s.current? with
    | some m => .next (.complete s.id s.config ⟨s.connection, m⟩)
    | none => .failed .eom (some s.id) (.noMessage .eom)
  | _ => .replied .proceed

/-- Carries out a callback on the session `id`: `Callback.change` under its lock, and then `follow`. -/
def act (f : Filter σ) (id : Uuid) (c : Callback) (st : FilterState σ) :
    Progress σ × FilterState σ :=
  match c with
  | .close => (.replied .proceed, st.leave f id)
  | c =>
    let (message, st) := st.fresh
    locked id c.stage ((c.change message st.clock).andThen (Change.look fun s => s))
      (fun s => follow s c) st

/-! ### Recipients -/

/-- Ends `RCPT TO` with the answer `v` of the checkers. -/
def gated (id : Uuid) (connection : Connection) (recipient : Address) (v : RecipientVerdict)
    (st : FilterState σ) : Progress σ × FilterState σ :=
  let reply := Reply.ofRecipient connection.allowListed v.action v.message
  if reply = .proceed then
    locked id .envRcpt (SessionChange.acceptRecipient recipient) (fun _ => .replied reply) st
  else (.replied reply, st)

/-- Goes on with a recipient as far as `gating` has come: it is `gated`, or waits for a checker. -/
def gateOn (id : Uuid) (connection : Connection) (recipient : Address)
    (gating : Registry.Gating σ × σ) (st : FilterState σ) : Progress σ × FilterState σ :=
  let st := { st with memory := gating.2 }
  match gating.1 with
  | .decided (.ok v) => (.next (.gated id connection recipient v), st)
  | .decided (.error p) => (.next (.interrupted .envRcpt (some id) (.panic p)), st)
  | .waiting ms outcome deferred rest =>
    (.waiting ms (.gating id connection recipient outcome deferred rest), st)

/-! ### Messages -/

/-- Goes on with a message as far as its checks have come in `j`: it is `ruled` if there is nothing to
wait for. -/
def judgeOn (id : Uuid) (config : Config) (ctx : CheckContext) (j : Judging σ)
    (st : FilterState σ) : Progress σ × FilterState σ :=
  match j.waitMs? with
  | some ms => (.waiting ms (.judging id config ctx j), st)
  | none =>
    let verdict := j.verdict.effective ctx.connection.allowListed
    (.next (.ruled { session := id, config, ctx, verdict }),
      { st with metrics := st.metrics.noteVerdict verdict.action })

/-- Takes in what the checks of a message have found until `ms`, by `Judging.advance`. -/
def receiveUntil (ms : Nat) (j : Judging σ) (st : FilterState σ) : Judging σ × FilterState σ :=
  let (j, metrics, memory) := j.advance ms st.metrics st.memory
  (j, { st with metrics, memory })

/-- Starts to judge a message: `Judging.start` starts the checks, on whatever the checkers remember by
then, and those that take no time have answered already. -/
def judge (f : Filter σ) (id : Uuid) (config : Config) (ctx : CheckContext) (st : FilterState σ) :
    Progress σ × FilterState σ :=
  let (j, memory) := Judging.start f.registry config ctx st.clock st.memory
  let (j, st) := receiveUntil 0 j { st with memory }
  judgeOn id config ctx j st

/-! ### Steps -/

/-- Takes a callback: looks for its session with `SessionTable.find?`. -/
def call (id : Option Uuid) (c : Callback) (st : FilterState σ) : Progress σ :=
  match id.bind st.sessions.find?, c with
  | some _, .envRcpt [] => .replied (.reject Reply.badRecipientText)
  | some s, c => .next (.called s.id c)
  | none, .abort | none, .close => .replied .proceed
  | none, c => .failed c.stage id (.noSession c.stage)

/-- Carries out a task. What follows is for the next step: between the two, anything else may happen. -/
def step (f : Filter σ) (st : FilterState σ) : Task σ → Progress σ × FilterState σ
  | .called id c => act f id c st
  | .asking id connection recipient =>
    gateOn id connection recipient (f.registry.ask connection recipient st.memory) st
  | .gating id connection recipient outcome deferred rest =>
    gateOn id connection recipient
      (Registry.askOn connection recipient outcome deferred rest st.memory) st
  | .gated id connection recipient v => gated id connection recipient v st
  | .complete id config ctx => judge f id config ctx st
  | .judging id config ctx j =>
    let (j, st) := receiveUntil ((j.pending.head?.map (·.atMs)).getD j.elapsedMs) j st
    judgeOn id config ctx j st
  | .ruled r =>
    locked r.session .eom (SessionChange.changeCurrent .eom r.conclude)
      (fun record => .next (.concluded r record)) st
  | .concluded r record =>
    (.next (.told r record), st.noteFollowUps (r.verdict.followUps r.verdict.action))
  | .told r record => (.done (.ok r.answer), st.enqueue (.message record))
  | .interrupted stage id reason => answerInterruption stage id st reason

end Filter

end MailFilter
