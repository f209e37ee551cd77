/-
Numbers in TOML: whole numbers to four bases, and floating-point numbers. Underscores may stand
between digits.
-/
import MailFilter.Data.Token
import MailFilter.Number.Reading

namespace MailFilter.Toml

open Number (digitValue?)

/-- The digits in a run of digits, where single underscores may stand between two of them. -/
def digits? (isDigit : Char → Bool) : List Char → Option (List Char)
  | [c] => if isDigit c then some [c] else none
  | c :: '_' :: rest => if isDigit c then (digits? isDigit rest).map (c :: ·) else none
  | c :: rest => if isDigit c then (digits? isDigit rest).map (c :: ·) else none
  | [] => none

/-- The `digits?` in a run of decimal ones. -/
def decimals? (cs : List Char) : Option (List Char) :=
  digits? (digitValue? · |>.isSome) cs

/-- The digits of a whole number, by `decimals?`, which does not start with a zero unless it is one. -/
def wholes? (cs : List Char) : Option (List Char) :=
  (decimals? cs).bind fun ds =>
    if ds.head? = some '0' && 1 < ds.length then none else some ds

/-- A sign in front, and what it stands in front of. -/
def signed (cs : List Char) : Bool × List Char :=
  match cs with
  | '-' :: rest => (true, rest)
  | '+' :: rest => (false, rest)
  | _ => (false, cs)

/-! ### Whole numbers -/

/-- The number that digits to the `base` stand for. -/
def inBase? (base : Nat) (cs : List Char) : Option Nat :=
  let digit? (c : Char) : Option Nat := (Data.hexValue? c).filter (· < base)
  (digits? (digit? · |>.isSome) cs).bind fun ds =>
    ds.foldl (fun acc c => acc.bind fun n => (digit? c).map (base * n + ·)) (some 0)

/-- The value of a whole number: `inBase?` after its mark, or `wholes?`. -/
def integer? (cs : List Char) : Option Int :=
  let value : Option Int := match cs with
    | '0' :: 'x' :: ds => (inBase? 16 ds).map Int.ofNat
    | '0' :: 'o' :: ds => (inBase? 8 ds).map Int.ofNat
    | '0' :: 'b' :: ds => (inBase? 2 ds).map Int.ofNat
    | _ =>
      let (negative, body) := signed cs
      ((wholes? body).bind Number.digitsValue?).map fun n => if negative then -(n : Int) else n
  value.filter fun n => Number.minInteger ≤ n && n ≤ Number.maxInteger

/-! ### Floating point -/

/-- The exponent after its mark. -/
def exponent? (cs : List Char) : Option Int :=
  let (negative, body) := signed cs
  ((decimals? body).bind Number.digitsValue?).map fun n => if negative then -(n : Int) else n

/-- Whether a character marks an exponent. -/
def isExponentMark (c : Char) : Bool :=
  c = 'e' || c = 'E'

/-- The value of a number with a fraction, an `exponent?` or both. -/
def decimal? (cs : List Char) : Option Float := do
  let whole ← wholes? (cs.takeWhile fun c => c ≠ '.' && !isExponentMark c)
  let rest := cs.dropWhile fun c => c ≠ '.' && !isExponentMark c
  let (fraction, rest) ← match rest with
    | '.' :: more =>
      (decimals? (more.takeWhile fun c => !isExponentMark c)).map fun ds =>
        (ds, more.dropWhile fun c => !isExponentMark c)
    | _ => some ([], rest)
  let exponent ← match rest with
    | [] => some 0
    | _ :: more => exponent? more
  if fraction.isEmpty && rest.isEmpty then none
  else some (Number.Written.value ⟨whole, fraction, exponent⟩)

/-- The value of a floating-point number: a word, or a `decimal?`. One that is too large is refused; one
that is too small is minus infinity. -/
def float? (cs : List Char) : Option Float :=
  let (negative, body) := signed cs
  if body = "inf".toList then some (if negative then -1.0 / 0.0 else 1.0 / 0.0)
  else if body = "nan".toList then some (0.0 / 0.0)
  else (decimal? body).bind fun x =>
    if negative then some (-x) else if x.isInf then none else some x

end MailFilter.Toml
