/-
The reading of settings files, where values of one kind may stand for values of another.

Words for on and off stand for truth values and, as one and zero, for numbers; numbers may be
written as texts, and texts as numbers. Lists and tables are never converted.
-/
import MailFilter.Config.Reading

namespace MailFilter.Config

/-- The words for on. -/
def onWords : List String := ["true", "on", "yes"]

/-- The words for off. -/
def offWords : List String := ["false", "off", "no"]

/-- The truth value of a word, in any case: it is among `onWords` or `offWords`. -/
def switch? (s : String) : Option Bool :=
  let word := Text.lowercase s
  if onWords.contains word then some true
  else if offWords.contains word then some false
  else none

/-- Reads a truth value; the digits for one and zero are words for it, as are those of `switch?`. -/
def coerceBool : Json → Option Bool
  | .bool b => some b
  | .int n => some (n ≠ 0)
  | .real x => some (x != 0.0)
  | .text s => if s = "1" then some true else if s = "0" then some false else switch? s
  | _ => none

/-- The nearest natural number of 64 bits; a half counts as a whole. -/
def roundToNatural (x : Float) : Nat :=
  (Float.round x).toUInt64.toNat

/-- Reads a natural number of 64 bits; one with a fraction goes through `roundToNatural`. -/
def coerceNatural : Json → Option Nat
  | .bool b => some (if b then 1 else 0)
  | .int n => if 0 ≤ n then some n.toNat else none
  | .real x => some (roundToNatural x)
  | .text s =>
    match switch? s with
    | some b => some (if b then 1 else 0)
    | none => (Number.readNatural Number.maxNatural s).toOption
  | _ => none

/-- Reads a floating-point number. -/
def coerceReal : Json → Option Float
  | .bool b => some (if b then 1.0 else 0.0)
  | .int n => some (Float.ofInt n)
  | .real x => some x
  | .text s =>
    match switch? s with
    | some b => some (if b then 1.0 else 0.0)
    | none => Number.readFloat? s
  | _ => none

/-- Reads a text. -/
def coerceText : Json → Option String
  | .bool b => some (if b then "true" else "false")
  | .int n => some (toString n)
  | .real x => some (Number.plainStyle.text x)
  | .text s => some s
  | _ => none

/-- Reads one of the `names` in any case: a text, or the key of a table that has only one. -/
def coerceName (names : List String) (j : Json) : Option String :=
  let word := match j with
    | .text s => some s
    | .object [(key, _)] => some key
    | _ => none
  word.bind fun s => names.find? fun name => Text.lowercase name = Text.lowercase s

/-- The `Leaves` of settings files, which make of a value what is asked for. -/
def coercingLeaves : Leaves where
  bool := coerceBool
  natural bits j := (coerceNatural j).filter (· < 1 <<< bits)
  real := coerceReal
  text := coerceText
  name := coerceName
  absent
    | .null => true
    | _ => false
  allowsSurplus := true

end MailFilter.Config
