/-
The words of JSON text: brackets, separators, quoted texts, numbers and names.

The scanner goes through the characters once and knows of the text before it only what word it is
in the middle of.
-/
namespace MailFilter.Data

/-- A word of JSON text. Numbers and names are kept as written. -/
inductive Token where
  | openList
  | closeList
  | openObject
  | closeObject
  | comma
  | colon
  | quoted (s : String)
  | bare (cs : List Char)
  deriving Repr, DecidableEq

/-- What the scanner is in the middle of; characters read are kept last first. -/
inductive Scanning where
  | between
  | word (read : List Char)
  | quote (read : List Char)
  | escape (read : List Char)
  /-- Hexadecimal digits of a code unit, after the first half of a pair if there is one. -/
  | unit (read : List Char) (high : Option Nat) (digits : Nat) (value : Nat)
  /-- After the first half of a pair. -/
  | half (read : List Char) (high : Nat)
  | halfEscape (read : List Char) (high : Nat)

/-- The blanks of JSON. -/
def isSpace (c : Char) : Bool :=
  c = ' ' || c = '\t' || c = '\n' || c = '\r'

/-- The bracket or separator that a character is. -/
def punctuation? : Char → Option Token
  | '[' => some .openList
  | ']' => some .closeList
  | '\x7b' => some .openObject
  | '\x7d' => some .closeObject
  | ',' => some .comma
  | ':' => some .colon
  | _ => none

/-- The value of a hexadecimal digit. -/
def hexValue? (c : Char) : Option Nat :=
  if '0' ≤ c && c ≤ '9' then some (c.toNat - 48)
  else if 'a' ≤ c && c ≤ 'f' then some (c.toNat - 87)
  else if 'A' ≤ c && c ≤ 'F' then some (c.toNat - 55)
  else none

/-- The character after a backslash that stands for another one. -/
def escape? : Char → Option Char
  | '"' => some '"'
  | '\\' => some '\\'
  | '/' => some '/'
  | 'b' => some '\x08'
  | 'f' => some '\x0c'
  | 'n' => some '\n'
  | 'r' => some '\r'
  | 't' => some '\t'
  | _ => none

/-- What follows a complete code unit. -/
def afterUnit (read : List Char) (high : Option Nat) (value : Nat) : Option Scanning :=
  match high with
  | some h =>
    if 0xDC00 ≤ value && value ≤ 0xDFFF then
      some (.quote (Char.ofNat (0x10000 + (h - 0xD800) * 1024 + (value - 0xDC00)) :: read))
    else none
  | none =>
    if 0xD800 ≤ value && value ≤ 0xDBFF then some (.half read value)
    else if 0xDC00 ≤ value && value ≤ 0xDFFF then none
    else some (.quote (Char.ofNat value :: read))

/-- Reads one character `c`: the tokens it completes, and what the scanner is then in the middle of. -/
def scanChar (at' : Scanning) (c : Char) : Option (List Token × Scanning) :=
  match at' with
  | .between =>
    if isSpace c then some ([], .between)
    else if c = '"' then some ([], .quote [])
    else match punctuation? c with
      | some t => some ([t], .between)
      | none => some ([], .word [c])
  | .word read =>
    let done := Token.bare read.reverse
    if isSpace c then some ([done], .between)
    else if c = '"' then none
    else match punctuation? c with
      | some t => some ([done, t], .between)
      | none => some ([], .word (c :: read))
  | .quote read =>
    if c = '"' then some ([.quoted (String.ofList read.reverse)], .between)
    else if c = '\\' then some ([], .escape read)
    else if c.toNat < 32 then none
    else some ([], .quote (c :: read))
  | .escape read =>
    if c = 'u' then some ([], .unit read none 0 0)
    else (escape? c).map fun d => ([], .quote (d :: read))
  | .unit read high digits value =>
    (hexValue? c).bind fun d =>
      if digits = 3 then (afterUnit read high (16 * value + d)).map fun next => ([], next)
      else some ([], .unit read high (digits + 1) (16 * value + d))
  | .half read high => if c = '\\' then some ([], .halfEscape read high) else none
  | .halfEscape read high => if c = 'u' then some ([], .unit read (some high) 0 0) else none

/-- Reads characters with the tokens before them, `acc`, last first; each goes to `scanChar`. -/
def scanFrom (acc : List Token) (at' : Scanning) : List Char → Option (List Token)
  | [] =>
    match at' with
    | .between => some acc.reverse
    | .word read => some (Token.bare read.reverse :: acc).reverse
    | _ => none
  | c :: cs =>
    match scanChar at' c with
    | some (tokens, next) => scanFrom (tokens.reverse ++ acc) next cs
    | none => none

/-- The words of a text, by `scanFrom`, if it has only well-formed ones. -/
def scan (s : String) : Option (List Token) :=
  scanFrom [] .between s.toList

end MailFilter.Data
