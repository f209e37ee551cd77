/-
Audit records read from structured data, strictly: every part that is not optional must be there and
have the right type. Parts that are not known are left out.
-/
import MailFilter.Config.Reading
import MailFilter.Record

namespace MailFilter

namespace RecordReading

open Config

/-- How single values of records are read: by `strictLeaves`. -/
abbrev leaves : Leaves := strictLeaves

/-- Reads an identifier. -/
def uuid (j : Json) : Option Uuid :=
  (leaves.text j).bind Uuid.parse?

/-- Reads a point in time. -/
def timestamp (j : Json) : Option Timestamp :=
  (leaves.text j).bind Timestamp.parse?

/-- Reads a network address. -/
def ip (j : Json) : Option Ip :=
  (leaves.text j).bind Ip.parse?

/-- Reads a disposition by its `Action.name`. -/
def disposition (j : Json) : Option Action :=
  (leaves.name (Action.all.map Action.name) j).bind Action.ofName?

/-- Reads an `Address`. -/
def address (j : Json) : Option Address := do
  guard (leaves.isStructure 2 j)
  return ⟨← required leaves.text (part j 0 "local"), ← required leaves.text (part j 1 "domain")⟩

/-- Reads a `Header`. -/
def header (j : Json) : Option Header := do
  guard (leaves.isStructure 4 j)
  return {
    key := ← required leaves.text (part j 0 "key")
    value := ← required leaves.text (part j 1 "value")
    index := ← required (leaves.natural 64) (part j 2 "index")
    deleted := ← required leaves.bool (part j 3 "deleted") }

/-- Reads facts by name. -/
def facts : Json → Option (List (String × Json))
  | .object fields => some (Fields.ofList (fields.map fun f => (f.1, f.2.sorted)))
  | _ => none

/-- Reads the `CheckRecord` of a check. -/
def check (j : Json) : Option CheckRecord := do
  guard (leaves.isStructure 7 j)
  return {
    module := ← required leaves.text (part j 0 "module")
    action := ← required disposition (part j 1 "action")
    message := ← required leaves.text (part j 2 "message")
    score := ← required leaves.real (part j 3 "score")
    weightedScore := ← required leaves.real (part j 4 "weighted_score")
    determinants := ← optional facts [] (part j 5 "determinants")
    durationMs := ← required (leaves.natural 64) (part j 6 "duration_ms") }

end RecordReading

open Config RecordReading

/-- Reads the record of a message, with the `check` of each module. -/
def MessageRecord.ofData? (j : Json) : Option MessageRecord := do
  guard (leaves.isStructure 15 j)
  return {
    id := ← required uuid (part j 0 "id")
    session := ← required uuid (part j 1 "session_id")
    queueId := ← required leaves.text (part j 2 "queue_id")
    sender := ← leaves.nullable address j 3 "sender"
    recipients := ← required (list address) (part j 4 "recipients")
    headers := ← required (list header) (part j 5 "headers")
    bodySize := ← required (leaves.natural 64) (part j 6 "body_size")
    receivedAt := ← required timestamp (part j 7 "received_at")
    action := ← required disposition (part j 8 "action")
    verdictMessage := ← required leaves.text (part j 9 "verdict_message")
    rejectScore := ← required leaves.real (part j 10 "reject_score")
    rejectThreshold := ← required leaves.real (part j 11 "reject_threshold")
    tempfailScore := ← required leaves.real (part j 12 "tempfail_score")
    tempfailThreshold := ← required leaves.real (part j 13 "tempfail_threshold")
    checks := ← required (list check) (part j 14 "checks") }

/-- Reads the record of a session. -/
def SessionRecord.ofData? (j : Json) : Option SessionRecord := do
  guard (leaves.isStructure 17 j)
  let text? (place : Nat) (key : String) := leaves.nullable leaves.text j place key
  let id ← required uuid (part j 0 "id")
  let ip ← leaves.nullable ip j 1 "client_ip"
  let port ← leaves.nullable (leaves.natural 16) j 2 "client_port"
  let reverseDns ← text? 3 "reverse_dns"
  let helo ← text? 4 "helo"
  let sasl : Sasl := { username := ← text? 5 "sasl_username", method := ← text? 6 "sasl_method" }
  let tls : Tls := {
    certIssuer := ← text? 7 "cert_issuer", certSubject := ← text? 8 "cert_subject"
    cipher := ← text? 9 "cipher", cipherBits := ← text? 10 "cipher_bits"
    version := ← text? 11 "tls_version" }
  let allowListed ← required leaves.bool (part j 12 "allow_listed")
  return {
    id, connection := { ip, port, reverseDns, helo, sasl, tls, allowListed }
    connectedAt := ← required timestamp (part j 13 "connected_at")
    disconnectedAt := ← leaves.nullable timestamp j 14 "disconnected_at"
    pruned := ← required leaves.bool (part j 15 "pruned")
    messageIds := ← required (list uuid) (part j 16 "message_ids") }

end MailFilter
