/-
The compact written form of structured data: JSON without blanks.
-/
import MailFilter.Data.Basic
import MailFilter.Number.Style

namespace MailFilter.Data

/-- The hexadecimal digit of a number below 16. -/
def hexDigit (n : Nat) : Char :=
  ("0123456789abcdef".toList[n]?).getD '0'

/-- The written form of a character within quotes; a control character is written by its number, with
`hexDigit`. -/
def escaped (c : Char) : String :=
  if c = '"' then "\\\""
  else if c = '\\' then "\\\\"
  else if c = '\n' then "\\n"
  else if c = '\r' then "\\r"
  else if c = '\t' then "\\t"
  else if c = '\x08' then "\\b"
  else if c = '\x0c' then "\\f"
  else if c.toNat < 32 then
    "\\u00" ++ String.ofList [hexDigit (c.toNat / 16), hexDigit (c.toNat % 16)]
  else String.singleton c

/-- A text in quotes, each character as `escaped` writes it. -/
def quoted (s : String) : String :=
  "\"" ++ s.toList.foldl (fun acc c => acc ++ escaped c) "" ++ "\""

/-- A floating-point number; one that is not finite is written as nothing. -/
def realText (x : Float) : String :=
  if x.isFinite then Number.dataStyle.text x else "null"

mutual

/-- The written form of structured data, with `quoted` texts and `realText` for numbers. -/
def render : Json → String
  | null => "null"
  | bool true => "true"
  | bool false => "false"
  | int n => toString n
  | real x => realText x
  | text s => quoted s
  | list items => "[" ++ renderItems items ++ "]"
  | object fields => "\x7b" ++ renderFields fields ++ "\x7d"

def renderItems : List Json → String
  | [] => ""
  | [x] => render x
  | x :: y :: rest => render x ++ "," ++ renderItems (y :: rest)

def renderFields : List (String × Json) → String
  | [] => ""
  | [(k, x)] => quoted k ++ ":" ++ render x
  | (k, x) :: f :: rest => quoted k ++ ":" ++ render x ++ "," ++ renderFields (f :: rest)

end

end MailFilter.Data
