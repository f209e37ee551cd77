/-
The status line that a client gets to see: a code of three digits, an enhanced code, and a text.

A text that starts with an enhanced code of its own replaces the usual one.
-/
import MailFilter.Filter.Reply
import MailFilter.Text.Blank
import MailFilter.Text.Utf8

namespace MailFilter.Milter

/-! ### Enhanced codes -/

/-- An enhanced code: the kind of the answer, and two numbers, as written, that give details. -/
structure EnhancedCode where
  kind : Char
  subject : List Char
  detail : List Char
  deriving DecidableEq, Repr

namespace EnhancedCode

/-- A code as it is written. -/
def written (c : EnhancedCode) : List Char :=
  c.kind :: '.' :: c.subject ++ '.' :: c.detail

/-- The kinds of answers: success, failure for now, failure for good. -/
def kinds : List Char := ['2', '4', '5']

/-- Whether `cs` is a number of one to three digits. -/
def isNumber (cs : List Char) : Bool :=
  !cs.isEmpty && decide (cs.length ≤ 3) && cs.all Char.isDigit

/-- The code with the given parts: a kind of `kinds`, and two that pass `isNumber`. -/
def ofParts? : List (List Char) → Option EnhancedCode
  | [[kind], subject, detail] =>
    if kinds.contains kind && isNumber subject && isNumber detail then
      some { kind, subject, detail }
    else none
  | _ => none

/-- Reads a code by `ofParts?`; points stand between its parts. -/
def read? (cs : List Char) : Option EnhancedCode :=
  ofParts? (cs.splitOnP (· = '.'))

/-- Whether a number is written without zeros in front. -/
def isMinimal (cs : List Char) : Bool :=
  cs.length ≤ 1 || cs.head? ≠ some '0'

/-- Whether a code can be sent: it tells of a failure, and its numbers pass `isMinimal`. -/
def isSendable (c : EnhancedCode) : Bool :=
  (c.kind = '4' || c.kind = '5') && isMinimal c.subject && isMinimal c.detail

/-- The usual code for a failure for now. -/
def usualTempfail : EnhancedCode := ⟨'4', ['7'], ['0']⟩

/-- The usual code for a failure for good. -/
def usualReject : EnhancedCode := ⟨'5', ['7'], ['1']⟩

end EnhancedCode

/-- Splits a text into the enhanced code that it starts with, by `EnhancedCode.read?`, and what follows;
without something to follow it has no such code. -/
def splitEnhanced (cs : List Char) : Option EnhancedCode × List Char :=
  let text := (cs.dropWhile (· ≠ ' ')).dropWhile Text.isBlank
  match EnhancedCode.read? (cs.takeWhile (· ≠ ' ')), text with
  | some code, c :: rest => (some code, c :: rest)
  | _, _ => (none, cs)

/-! ### Status lines -/

/-- A status line. -/
structure StatusLine where
  code : String
  enhanced : EnhancedCode
  text : List Char
  deriving DecidableEq, Repr

namespace StatusLine

/-- The status line with the `code`, the enhanced code that `splitEnhanced` finds or else the `usual`
one, and a text. -/
def ofText (code : String) (usual : EnhancedCode) (s : String) : StatusLine :=
  let (enhanced, text) := splitEnhanced s.toList
  { code, enhanced := enhanced.getD usual, text }

/-- The status line of a reply, by `ofText`, if it refuses. -/
def ofReply? : Reply → Option StatusLine
  | .proceed => none
  | .tempfail s => some (ofText "451" .usualTempfail s)
  | .reject s => some (ofText "550" .usualReject s)

/-- The length in bytes that a text must not exceed. -/
def maxBytes : Nat := 980

/-- Whether a status line can be sent: its code can, and its text is one line of up to `maxBytes`. -/
def isSendable (l : StatusLine) : Bool :=
  l.enhanced.isSendable && l.text.all (fun c => c ≠ '\r' && c ≠ '\n') &&
    decide (Text.byteCount l.text ≤ maxBytes)

/-- A text as it can be sent: the replacement character stands for NUL. -/
def sendable (cs : List Char) : List Char :=
  cs.map fun c => if c = '\x00' then Text.replacement else c

/-- A status line as it is sent, with its text as it is `sendable`. -/
def line (l : StatusLine) : String :=
  l.code ++ " " ++ String.ofList l.enhanced.written ++ " " ++ String.ofList (sendable l.text)

end StatusLine

end MailFilter.Milter
