/-
Results written out in full for the log.
-/
import MailFilter.Text.HiddenTable
import MailFilter.Text.RangeTable
import MailFilter.Verdict.Result
import MailFilter.Data.Printer

namespace MailFilter

namespace Text

/-- A character within quotes; one that does not show is written as its number. -/
def inspectChar (c : Char) : String :=
  if c = '"' then "\\\""
  else if c = '\\' then "\\\\"
  else if c = '\n' then "\\n"
  else if c = '\r' then "\\r"
  else if c = '\t' then "\\t"
  else if c.toNat = 0 then "\\0"
  else if inRanges hiddenRanges c then
    "\\u\x7b" ++ String.ofList (Nat.toDigits 16 c.toNat) ++ "\x7d"
  else String.singleton c

/-- A text within quotes, each character by `inspectChar`. -/
def inspect (s : String) : String :=
  "\"" ++ s.toList.foldl (fun acc c => acc ++ inspectChar c) "" ++ "\""

end Text

namespace Data

mutual

/-- Data written out with the kind of each value. -/
def inspect : Json → String
  | null => "Null"
  | bool b => "Bool(" ++ (if b then "true" else "false") ++ ")"
  | int n => "Number(" ++ toString n ++ ")"
  | real x => "Number(" ++ realText x ++ ")"
  | text s => "String(" ++ Text.inspect s ++ ")"
  | list items => "Array [" ++ inspectItems items ++ "]"
  | object fields => "Object \x7b" ++ inspectFields fields ++ "\x7d"

def inspectItems : List Json → String
  | [] => ""
  | [x] => inspect x
  | x :: y :: rest => inspect x ++ ", " ++ inspectItems (y :: rest)

def inspectFields : List (String × Json) → String
  | [] => ""
  | [(k, x)] => Text.inspect k ++ ": " ++ inspect x
  | (k, x) :: f :: rest =>
    Text.inspect k ++ ": " ++ inspect x ++ ", " ++ inspectFields (f :: rest)

end

end Data

/-- The kind of a disposition in the log. -/
def Action.inspect : Action → String
  | permit => "Permit"
  | tempfail => "TempFail"
  | reject => "Reject"
  | error => "Error"

/-- A duration of whole milliseconds, in seconds from a thousand of them on. -/
def inspectMs (ms : Nat) : String :=
  if ms = 0 then "0ns"
  else if ms < 1000 then toString ms ++ "ms"
  else
    let rest := ms % 1000
    let digits := (toString (1000 + rest)).toList.drop 1
    let fraction := (digits.reverse.dropWhile (· = '0')).reverse
    toString (ms / 1000) ++ (if rest = 0 then "" else "." ++ String.ofList fraction) ++ "s"

/-- A `CheckResult` written out with all its parts. -/
def CheckResult.inspect (r : CheckResult Float) : String :=
  "MessageCheckResult \x7b module: " ++ Text.inspect r.module ++ ", action: " ++ r.action.inspect ++
    ", message: " ++ Text.inspect r.message ++ ", score: " ++ Number.auditStyle.text r.score ++
    ", weighted_score: " ++ Number.auditStyle.text r.weightedScore ++ ", determinants: \x7b" ++
    Data.inspectFields r.determinants ++ "\x7d, duration: " ++ inspectMs r.elapsedMs ++
    ", callbacks: " ++ toString r.followUps.length ++ " \x7d"

end MailFilter
