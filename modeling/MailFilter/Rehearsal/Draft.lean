/-
Messages drafted step by step, for rehearsals without a mail server.
-/
import MailFilter.Data.Bytes
import MailFilter.Message.Compose
import MailFilter.Record
import MailFilter.Verdict.Data

namespace MailFilter

/-- A change to the headers as data. -/
def HeaderMutation.toData : HeaderMutation → Json
  | .add key value => .ofTexts ["add", key, value]
  | .delete key index => .list [.text "delete", .text key, .ofNat index]

/-- The headers of a message as data: key, value, place and whether they are deleted. -/
def Message.headersData (m : Message) : Json :=
  .list (m.headers.map fun h => .list [.text h.key, .text h.value, .ofNat h.index, .bool h.deleted])

/-- A message as data. -/
def Message.toData (m : Message) : Json :=
  .sortedObject [("queue_id", .text m.queueId), ("sender", .text m.sender.text),
    ("recipients", .ofTexts (m.recipients.map Address.text)), ("headers", m.headersData),
    ("body_size", .ofNat m.body.length), ("finalized", .bool m.isFinalized),
    ("synthesized", .ofText? m.synthesizedId)]

/-- The record of a message without what depends on the clock: the time, and the duration
of each check. -/
def MessageRecord.timelessData (r : MessageRecord) : Json :=
  ((r.toData.spelled.dropField "received_at").modifyField "checks"
    (Data.mapItems (Data.dropField "duration_ms"))).sorted

/-- The record of a session without what depends on the clock. -/
def SessionRecord.timelessData (r : SessionRecord) : Json :=
  ((r.toData.dropField "connected_at").modifyField "disconnected_at"
    fun _ => .bool r.disconnectedAt.isSome).sorted

/-- Reads a part of the settings that has a `default`. -/
def readSettings {α : Type} (read : Json → Option α) (default : α) (j : Json) (key : String) :
    Read α :=
  match j.present? key with
  | none => .ok default
  | some value => ((read value).map Except.ok).getD (.error .settings)

/-- Reads thresholds and groups: a `Scoring`, with `readSettings`. -/
def readScoring (j : Json) (key : String) : Read (Scoring Float) :=
  readSettings Config.strictLeaves.scoring ({} : Config).scoring j key

namespace Draft

/-- What a step on a message yields, besides the message. -/
inductive Yield where
  | data (j : Json)
  | failed (e : Failure)

/-- A step that yields nothing but the message. -/
def changed (m : Message) : Except Failure Message → Yield × Message
  | .ok m => (.data .null, m)
  | .error e => (.failed e, m)

/-- A step that yields something besides the message. -/
def yielded {α : Type} (toData : α → Json) (m : Message) :
    Except Failure (α × Message) → Yield × Message
  | .ok (a, m) => (.data (toData a), m)
  | .error e => (.failed e, m)

/-- Carries out a step that is given as data: what it yields, by `changed` or `yielded`,
and the message. -/
def step (m : Message) (j : Json) : Read (Yield × Message) := do
  let text := j.require Data.asText?
  match ← text "do" with
  | "set_queue_id" => return changed m (m.setQueueId (← text "id"))
  | "add_recipient" => return changed m (m.addRecipient (Address.ofArgument (← text "arg")))
  | "add_header" => return yielded Data.ofNat m (m.addHeader (← text "key") (← text "value"))
  | "delete_header" =>
    return yielded .bool m (m.deleteHeader (← text "key") (← j.require Data.asNat? "index"))
  | "header" => return (.data (.ofText? (m.header? (← text "key"))), m)
  | "append_body" => return changed m (m.appendBody (← j.require Data.asBytes? "data"))
  | "ensure_message_id" =>
    return yielded Data.ofText? m (m.ensureMessageId (← text "hostname"))
  | "finalize" =>
    let scoring ← readScoring j "scoring"
    return changed m (m.finalize (.decide scoring (← CheckResult.readAll "results" j)))
  | "verdict" => return (.data ((m.verdict.map Verdict.toData).getD .null), m)
  | "body" => return (.data (.ofBytes m.body), m)
  | "to_raw" => return (.data (.ofBytes m.raw), m)
  | "to_record" => return (.data m.toRecord.timelessData, m)
  | _ => throw (.field "do")

/-- The message after a `step`; one that cannot be read changes nothing. -/
def after (m : Message) (j : Json) : Message :=
  match step m j with
  | .ok (_, m) => m
  | .error _ => m

/-- An empty message. -/
def empty (sender : Address) (now : Timestamp) : Message :=
  Message.new (Uuid.issued 1) (Uuid.issued 0) sender now

/-- Drafts a message from its sender and its steps: an `empty` one, and what is there `after` each of
them. -/
def read (now : Timestamp) (j : Json) : Read Message := do
  let sender ← j.allowOr Data.asText? "<from@example.org>" "sender"
  return (← j.allowOr Data.asList? [] "steps").foldl after (empty (Address.ofArgument sender) now)

end Draft

end MailFilter
