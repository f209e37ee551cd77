/-
A strict reader of JSON text.

The reader goes through the words of the text with a stack of the lists and objects that are open.
Objects keep their fields as written, so a key may stand several times.

A whole number that fits in 64 bits is an integer. Any other number is the first digits that fit in
64 bits, scaled once by a power of ten.
-/
import MailFilter.Data.Basic
import MailFilter.Data.Token
import MailFilter.Number.Reading

namespace MailFilter.Data

open Number (digitValue? spanDigits)

/-! ### Numbers -/

/-- `significand · 10 ^ e` by one multiplication or division; none if it is too large. -/
def scaleOnce (significand : Nat) (e : Int) : Option Float :=
  go 8 (Float.ofNat significand) e
where
  go : Nat → Float → Int → Option Float
    | 0, f, _ => some f
    | fuel + 1, f, e =>
      if e.natAbs ≤ 308 then
        if 0 ≤ e then
          let g := f * Float.ofScientific 1 false e.natAbs
          if g.isInf then none else some g
        else some (f / Float.ofScientific 1 false e.natAbs)
      else if f == 0.0 then some f
      else if 0 ≤ e then none
      else go fuel (f / 1e308) (e + 308)

/-- Takes digits into a `significand` as long as it fits in 64 bits: the significand and the digits left
over. -/
def takeDigits (significand : Nat) : List Char → Nat × List Char
  | [] => (significand, [])
  | c :: cs =>
    let next := 10 * significand + (digitValue? c).getD 0
    if next ≤ Number.maxNatural then takeDigits next cs else (significand, c :: cs)

/-- The parts of a number: whether it is negative, its whole digits, the digits of its fraction if
it has one, its exponent if it has one. -/
structure Numeral where
  negative : Bool
  whole : List Char
  fraction : Option (List Char)
  exponent : Option Int

/-- Reads an optional exponent that ends the text. -/
def readExponentPart : List Char → Option (Option Int)
  | [] => some none
  | cs => (Number.readExponent cs).map some

/-- Splits a numeral into its parts, as `Numeral` has them. -/
def readNumeral (cs : List Char) : Option Numeral :=
  let (negative, cs) := match cs with
    | '-' :: rest => (true, rest)
    | _ => (false, cs)
  let (whole, rest) := spanDigits cs
  let leadingZero := match whole with
    | '0' :: _ :: _ => true
    | _ => false
  if whole.isEmpty || leadingZero then none
  else
    match rest with
    | '.' :: more =>
      let (fraction, rest) := spanDigits more
      if fraction.isEmpty then none
      else (readExponentPart rest).map fun e => ⟨negative, whole, some fraction, e⟩
    | _ => (readExponentPart rest).map fun e => ⟨negative, whole, none, e⟩

/-- The value of a `Numeral`: a whole number if it can be one, else a floating-point number. -/
def Numeral.value (n : Numeral) : Option Json :=
  let (significand, restWhole) := takeDigits 0 n.whole
  let floating : Option Json :=
    let fraction := n.fraction.getD []
    let (significand, restFraction) := takeDigits significand fraction
    let e : Int := (restWhole.length : Int) - ((fraction.length - restFraction.length : Nat) : Int)
      + n.exponent.getD 0
    (scaleOnce significand e).map fun x => real (if n.negative then -x else x)
  if n.fraction.isSome || n.exponent.isSome || !restWhole.isEmpty then floating
  else if !n.negative then some (int significand)
  else if significand = 0 || 1 <<< 63 < significand then floating
  else some (int (-significand))

/-- The value of a word that is neither quoted nor punctuation: `null`, a truth value, or one by
`readNumeral`. -/
def readBare (cs : List Char) : Option Json :=
  if cs = "null".toList then some null
  else if cs = "true".toList then some (bool true)
  else if cs = "false".toList then some (bool false)
  else (readNumeral cs).bind Numeral.value

/-! ### Lists and objects -/

/-- A list or object that is open, with what it holds so far, last first. -/
inductive Frame where
  | items (read : List Json)
  | fields (read : List (String × Json)) (key : String)

/-- What may stand next. -/
inductive Expecting where
  | value
  /-- A value, or the end of the list that has just been opened. -/
  | firstItem
  | key (read : List (String × Json))
  /-- A key, or the end of the object that has just been opened. -/
  | firstKey
  | colon (read : List (String × Json)) (key : String)
  | separator
  /-- Nothing more: the text is complete. -/
  | done (result : Json)

/-- The state of the reader: what is open, and what may stand next. For `separator` the innermost
open part is the first of the stack. -/
structure Reading where
  stack : List Frame
  expecting : Expecting

/-- Puts a complete value where it belongs: into the innermost frame of the `stack`. -/
def place (stack : List Frame) (x : Json) : Reading :=
  match stack with
  | [] => ⟨[], .done x⟩
  | .items read :: outer => ⟨.items (x :: read) :: outer, .separator⟩
  | .fields read key :: outer => ⟨.fields ((key, x) :: read) key :: outer, .separator⟩

/-- How many lists and objects may be open within each other. -/
def maxDepth : Nat := 127

/-- Opens a list or object, unless there are `maxDepth` of them. -/
def open? (stack : List Frame) (next : Reading) : Option Reading :=
  if maxDepth ≤ stack.length then none else some next

/-- Reads a word that starts a value, which goes to its `place` if it is complete. -/
def readStart (stack : List Frame) : Token → Option Reading
  | .openList => open? stack ⟨.items [] :: stack, .firstItem⟩
  | .openObject => open? stack ⟨stack, .firstKey⟩
  | .quoted s => some (place stack (text s))
  | .bare cs => (readBare cs).map (place stack)
  | _ => none

/-- Reads one word, where the reader is `expecting` it. -/
def readToken (r : Reading) (t : Token) : Option Reading :=
  match r.expecting with
  | .value => readStart r.stack t
  | .firstItem =>
    match t, r.stack with
    | .closeList, .items _ :: outer => some (place outer (list []))
    | _, stack => readStart stack t
  | .key read =>
    match t with
    | .quoted key => some ⟨r.stack, .colon read key⟩
    | _ => none
  | .firstKey =>
    match t with
    | .quoted key => some ⟨r.stack, .colon [] key⟩
    | .closeObject => some (place r.stack (object []))
    | _ => none
  | .colon read key =>
    match t with
    | .colon => some ⟨.fields read key :: r.stack, .value⟩
    | _ => none
  | .separator =>
    match t, r.stack with
    | .comma, .items _ :: _ => some ⟨r.stack, .value⟩
    | .closeList, .items read :: outer => some (place outer (list read.reverse))
    | .comma, .fields read _ :: outer => some ⟨outer, .key read⟩
    | .closeObject, .fields read _ :: outer => some (place outer (object read.reverse))
    | _, _ => none
  | .done _ => none

/-- Reads words one after the other, each by `readToken`. -/
def readTokens (r : Reading) : List Token → Option Reading
  | [] => some r
  | t :: ts => (readToken r t).bind fun next => readTokens next ts

/-- The data that a text is the written form of, fields as written: `readTokens` of what
`scan` finds. -/
def parse? (s : String) : Option Json :=
  match (scan s).bind (readTokens ⟨[], .value⟩) with
  | some ⟨_, .done x⟩ => some x
  | _ => none

end MailFilter.Data
