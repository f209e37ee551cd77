/-
Numbers read from text.

A whole number is a run of digits, perhaps signed, within a range. A floating-point number is
written with digits, a point and an exponent, or as a word, and is rounded once.
-/
namespace MailFilter.Number

/-- Why a text is no whole number of the range asked for. -/
inductive IntegerFault where
  | empty
  | badDigit
  | tooLarge
  | tooSmall
  deriving Repr, DecidableEq

/-- The words for an `IntegerFault`. -/
def IntegerFault.message : IntegerFault → String
  | .empty => "cannot parse integer from empty string"
  | .badDigit => "invalid digit found in string"
  | .tooLarge => "number too large to fit in target type"
  | .tooSmall => "number too small to fit in target type"

/-- The value of a digit. -/
def digitValue? (c : Char) : Option Nat :=
  if '0' ≤ c && c ≤ '9' then some (c.toNat - '0'.toNat) else none

/-- The value of a run of digits, by `digitValue?`, and none for any other text. -/
def digitsValue? (cs : List Char) : Option Nat :=
  cs.foldl (fun acc c => acc.bind fun n => (digitValue? c).map (10 * n + ·)) (some 0)

/-- Reads digits that go on a number `n` of at most `max`. The first fault from the left counts. -/
def readDigitsUpTo (max n : Nat) : List Char → Except IntegerFault Nat
  | [] => .ok n
  | c :: cs =>
    match digitValue? c with
    | none => .error .badDigit
    | some d => if 10 * n + d ≤ max then readDigitsUpTo max (10 * n + d) cs else .error .tooLarge

/-- Reads a natural number up to `max`; a plus sign may stand in front. -/
def readNatural (max : Nat) (s : String) : Except IntegerFault Nat :=
  match s.toList with
  | [] => .error .empty
  | ['+'] => .error .badDigit
  | '+' :: cs => readDigitsUpTo max 0 cs
  | cs => readDigitsUpTo max 0 cs

/-- Reads a whole number from `min` to `max`; a sign may stand in front. -/
def readInteger (min max : Int) (s : String) : Except IntegerFault Int :=
  match s.toList with
  | [] => .error .empty
  | cs =>
    let (negative, body) := match cs with
      | '+' :: rest => if rest.isEmpty then (false, cs) else (false, rest)
      | '-' :: rest => if rest.isEmpty then (false, cs) else (true, rest)
      | _ => (false, cs)
    match digitsValue? body with
    | none => .error .badDigit
    | some n =>
      let value : Int := if negative then -n else n
      if value < min then .error .tooSmall
      else if max < value then .error .tooLarge
      else .ok value

/-- The largest whole number of 64 bits, and the range of signed ones. -/
def maxNatural : Nat := UInt64.size - 1
def maxInteger : Int := Int64.maxValue.toInt
def minInteger : Int := Int64.minValue.toInt

/-! ### Floating point -/

/-- The number `digits · 10 ^ scale`, rounded once. -/
def fromDecimal (digits : Nat) (scale : Int) : Float :=
  let length : Int := (Nat.toDigits 10 digits).length
  if digits = 0 then 0.0
  else if 400 < length + scale then 1.0 / 0.0
  else if length + scale < -400 then 0.0
  else if 0 ≤ scale then Float.ofScientific digits false scale.toNat
  else Float.ofScientific digits true (-scale).toNat

/-- The parts of a number written with digits: whole digits, digits of the fraction, exponent. -/
structure Written where
  whole : List Char
  fraction : List Char
  exponent : Int

/-- The value of the parts, `fromDecimal` of all digits. -/
def Written.value (w : Written) : Float :=
  let digits := (digitsValue? (w.whole ++ w.fraction)).getD 0
  fromDecimal digits (w.exponent - w.fraction.length)

/-- Splits off the digits at the front, those with a `digitValue?`. -/
def spanDigits (cs : List Char) : List Char × List Char :=
  (cs.takeWhile (digitValue? · |>.isSome), cs.dropWhile (digitValue? · |>.isSome))

/-- Reads an exponent, its mark included; none is written as the empty text. -/
def readExponent : List Char → Option Int
  | [] => some 0
  | mark :: cs =>
    if mark = 'e' || mark = 'E' then
      let (negative, ds) := match cs with
        | '+' :: rest => (false, rest)
        | '-' :: rest => (true, rest)
        | _ => (false, cs)
      if ds.isEmpty then none
      else (digitsValue? ds).map fun n => if negative then -(n : Int) else n
    else none

/-- Reads the parts of a number, as `Written` has them; digits must stand on one side of the point at
least. -/
def readWritten (cs : List Char) : Option Written :=
  let (whole, rest) := spanDigits cs
  let (fraction, rest) := match rest with
    | '.' :: more => spanDigits more
    | _ => ([], rest)
  if whole.isEmpty && fraction.isEmpty then none
  else (readExponent rest).map fun e => ⟨whole, fraction, e⟩

/-- Reads a floating-point number: digits by `readWritten`, or a word, perhaps signed. -/
def readFloat? (s : String) : Option Float :=
  let (negative, cs) := match s.toList with
    | '+' :: rest => (false, rest)
    | '-' :: rest => (true, rest)
    | cs => (false, cs)
  let word := String.ofList (cs.map Char.toLower)
  let size :=
    if word = "inf" || word = "infinity" then some (1.0 / 0.0)
    else if word = "nan" then some (0.0 / 0.0)
    else (readWritten cs).map Written.value
  size.map fun x => if negative then -x else x

end MailFilter.Number
