/-
Messages: the envelope, the headers and the body of one transaction.

Headers carry the number of their occurrence among the headers of their name that are not deleted,
so that deletions name the same header as they do for the mail server. A message with a verdict no
longer changes.
-/
import MailFilter.Address
import MailFilter.Session.Failure
import MailFilter.Text.Caseless
import MailFilter.Text.Utf8
import MailFilter.Time
import MailFilter.Uuid
import MailFilter.Verdict.Basic

namespace MailFilter

/-- A header line. `index` is its place among those of its name that are not `deleted`, as the mail
server counts. -/
structure Header where
  key : String
  value : String
  /-- The place among the headers of the same name, counted from one. -/
  index : Nat
  deleted : Bool := false
  deriving DecidableEq, Repr

/-- Whether a header is not `deleted` and has the name `key`. -/
def Header.answersTo (h : Header) (key : String) : Bool :=
  !h.deleted && Text.sameName h.key key

/-- One mail transaction. Its `verdict` is the last thing that is recorded. -/
structure Message where
  id : Uuid
  session : Uuid
  /-- The name of the message at the mail server; empty until it is known. -/
  queueId : String := ""
  sender : Address
  recipients : List Address := []
  headers : List Header := []
  body : List UInt8 := []
  receivedAt : Timestamp
  /-- The Message-Id given to a message that came without one. -/
  synthesizedId : Option String := none
  verdict : Option (Verdict Float) := none

namespace Message

/-- A message of which nothing but the `sender` is known. -/
def new (id session : Uuid) (sender : Address) (receivedAt : Timestamp) : Message :=
  { id, session, sender, receivedAt }

/-- Whether a `verdict` has been recorded. -/
def isFinalized (m : Message) : Bool :=
  m.verdict.isSome

/-- The headers that are not `deleted`. -/
def liveHeaders (m : Message) : List Header :=
  m.headers.filter fun h => !h.deleted

/-- The headers that `Header.answersTo` a name. -/
def headersNamed (m : Message) (key : String) : List Header :=
  m.headers.filter fun h => h.answersTo key

/-- The first value of a header, among `headersNamed`. -/
def header? (m : Message) (key : String) : Option String :=
  ((m.headersNamed key).head?).map (·.value)

/-- Goes on with a message that has no verdict; one that `isFinalized` is left alone. -/
def whenOpen {α : Type} (m : Message) (result : α) : Except Failure α :=
  if m.isFinalized then .error .messageFinalized else .ok result

/-- Records the name `queueId` of the message at the mail server. -/
def setQueueId (m : Message) (queueId : String) : Except Failure Message :=
  m.whenOpen { m with queueId }

/-- Adds a recipient after the others, `whenOpen`. -/
def addRecipient (m : Message) (recipient : Address) : Except Failure Message :=
  m.whenOpen { m with recipients := m.recipients ++ [recipient] }

/-- The place that the next header of a name has, after those of `headersNamed`. -/
def nextIndex (m : Message) (key : String) : Nat :=
  (m.headersNamed key).length + 1

/-- Adds a header at the end, `whenOpen`; yields its place `nextIndex` too. -/
def addHeader (m : Message) (key value : String) : Except Failure (Nat × Message) :=
  let index := m.nextIndex key
  m.whenOpen (index, { m with headers := m.headers ++ [{ key, value, index }] })

/-- Marks the header with the name `key` and the place `index` deleted and moves the later ones of the
name up; nothing if there is none. -/
def deleteOccurrence (key : String) (index : Nat) : List Header → Option (List Header)
  | [] => none
  | h :: rest =>
    if h.answersTo key && h.index = index then
      some ({ h with deleted := true } ::
        rest.map fun g => if g.answersTo key then { g with index := g.index - 1 } else g)
    else (deleteOccurrence key index rest).map (h :: ·)

/-- Deletes the header of a name and place by `deleteOccurrence`; tells whether there was one. -/
def deleteHeader (m : Message) (key : String) (index : Nat) : Except Failure (Bool × Message) :=
  m.whenOpen <| match deleteOccurrence key index m.headers with
    | some headers => (true, { m with headers })
    | none => (false, m)

/-- Adds `chunk` to the body, `whenOpen`. -/
def appendBody (m : Message) (chunk : List UInt8) : Except Failure Message :=
  m.whenOpen { m with body := m.body ++ chunk }

/-- The Message-Id for a message that has none: its `queueId`, or else its own
identifier, at `hostname`. -/
def idFor (m : Message) (hostname : String) : String :=
  let name := if m.queueId.isEmpty then m.id.simple else m.queueId
  "<" ++ name ++ "@" ++ hostname ++ ">"

/-- Adds the Message-Id `idFor` to a message without one; yields the one that has been added now or
before. A message that has one is left alone, even with a verdict. -/
def ensureMessageId (m : Message) (hostname : String) :
    Except Failure (Option String × Message) :=
  if (m.header? "Message-Id").isSome then .ok (m.synthesizedId, m)
  else
    let value := m.idFor hostname
    (m.addHeader "Message-Id" value).map fun (_, m) =>
      (some value, { m with synthesizedId := some value })

/-- Records the verdict. From then on the message `isFinalized`. -/
def finalize (m : Message) (verdict : Verdict Float) : Except Failure Message :=
  m.whenOpen { m with verdict := some verdict }

/-- The message as it is sent: the `liveHeaders`, an empty line, the body. -/
def raw (m : Message) : List UInt8 :=
  m.liveHeaders.flatMap (fun h => Text.utf8 (h.key ++ ": " ++ h.value ++ "\r\n")) ++
    Text.utf8 "\r\n" ++ m.body

end Message

end MailFilter
