/-
Audit records of sessions and messages.
-/
import MailFilter.Message.Basic
import MailFilter.Session.Connection

namespace MailFilter

/-- The record of one module's opinion on a message. -/
structure CheckRecord where
  module : String
  action : Action
  message : String
  score : Float
  weightedScore : Float
  determinants : List (String × Json)
  durationMs : Nat

/-- The record of a message with a verdict, as `Message.toRecord` makes it. -/
structure MessageRecord where
  id : Uuid
  session : Uuid
  queueId : String
  sender : Option Address
  recipients : List Address
  headers : List Header
  bodySize : Nat
  receivedAt : Timestamp
  action : Action := default
  verdictMessage : String := ""
  rejectScore : Float := 0.0
  rejectThreshold : Float := 0.0
  tempfailScore : Float := 0.0
  tempfailThreshold : Float := 0.0
  checks : List CheckRecord := []

/-- The record of a session, as `Session.toRecord` makes it when the session ends. -/
structure SessionRecord where
  id : Uuid
  connection : Connection
  connectedAt : Timestamp
  disconnectedAt : Option Timestamp
  /-- Whether the session was evicted for its age. -/
  pruned : Bool
  messageIds : List Uuid

/-- A record of either kind, for the `Queue`. -/
inductive Record where
  | message (record : MessageRecord)
  | session (record : SessionRecord)

/-- The record of a result, in the `checks` of its message. -/
def CheckResult.toRecord (r : CheckResult Float) : CheckRecord :=
  { module := r.module, action := r.action, message := r.message, score := r.score
    weightedScore := r.weightedScore, determinants := r.determinants, durationMs := r.elapsedMs }

/-- The record of a message: what the mail server has told, all headers, and the verdict with its
results, each by `CheckResult.toRecord`. -/
def Message.toRecord (m : Message) : MessageRecord :=
  let base : MessageRecord :=
    { id := m.id, session := m.session, queueId := m.queueId, sender := some m.sender
      recipients := m.recipients, headers := m.headers, bodySize := m.body.length
      receivedAt := m.receivedAt }
  match m.verdict with
  | none => base
  | some v =>
    { base with
      action := v.action, verdictMessage := v.message
      rejectScore := v.rejectScore, rejectThreshold := v.rejectThreshold
      tempfailScore := v.tempfailScore, tempfailThreshold := v.tempfailThreshold
      checks := v.results.map CheckResult.toRecord }

/-! ### As data -/

/-- An address as data. -/
def Address.toData (a : Address) : Json :=
  .object [("local", .text a.localPart), ("domain", .text a.domain)]

/-- A header as data. -/
def Header.toData (h : Header) : Json :=
  .object [("key", .text h.key), ("value", .text h.value), ("index", .ofNat h.index),
    ("deleted", .bool h.deleted)]

/-- The record of a check as data. -/
def CheckRecord.toData (r : CheckRecord) : Json :=
  .object [("module", .text r.module), ("action", .text r.action.name),
    ("message", .text r.message), ("score", .real r.score),
    ("weighted_score", .real r.weightedScore), ("determinants", .object r.determinants),
    ("duration_ms", .ofNat r.durationMs)]

/-- The record of a message as data. -/
def MessageRecord.toData (r : MessageRecord) : Json :=
  .object [("id", .text r.id.text), ("session_id", .text r.session.text),
    ("queue_id", .text r.queueId), ("sender", (r.sender.map Address.toData).getD .null),
    ("recipients", .list (r.recipients.map Address.toData)),
    ("headers", .list (r.headers.map Header.toData)), ("body_size", .ofNat r.bodySize),
    ("received_at", .text r.receivedAt.text), ("action", .text r.action.name),
    ("verdict_message", .text r.verdictMessage), ("reject_score", .real r.rejectScore),
    ("reject_threshold", .real r.rejectThreshold), ("tempfail_score", .real r.tempfailScore),
    ("tempfail_threshold", .real r.tempfailThreshold),
    ("checks", .list (r.checks.map CheckRecord.toData))]

/-- The record of a session as data. -/
def SessionRecord.toData (r : SessionRecord) : Json :=
  let c := r.connection
  .object [("id", .text r.id.text), ("client_ip", .ofText? (c.ip.map Ip.text)),
    ("client_port", (c.port.map Data.ofNat).getD .null), ("reverse_dns", .ofText? c.reverseDns),
    ("helo", .ofText? c.helo), ("sasl_username", .ofText? c.sasl.username),
    ("sasl_method", .ofText? c.sasl.method), ("cert_issuer", .ofText? c.tls.certIssuer),
    ("cert_subject", .ofText? c.tls.certSubject), ("cipher", .ofText? c.tls.cipher),
    ("cipher_bits", .ofText? c.tls.cipherBits), ("tls_version", .ofText? c.tls.version),
    ("allow_listed", .bool c.allowListed), ("connected_at", .text r.connectedAt.text),
    ("disconnected_at", .ofText? (r.disconnectedAt.map Timestamp.text)),
    ("pruned", .bool r.pruned), ("message_ids", .ofTexts (r.messageIds.map Uuid.text))]

end MailFilter
