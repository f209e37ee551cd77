/-
The written forms of a floating-point number.

A `Style` says which numbers are written positionally, how an exponent is marked and whether a
whole number keeps a fraction. The three styles in use differ only in these choices; the digits are
those of `shortest`.
-/
import MailFilter.Number.Shortest

namespace MailFilter.Number

/-- The choices of a written form. -/
structure Style where
  /-- The decimal exponents of the first digit that are written positionally; all if absent. -/
  positional : Option (Int × Int)
  /-- Whether a whole number written positionally ends in `.0`. -/
  keepsFraction : Bool
  /-- Whether a positive exponent has a sign. -/
  signedExponent : Bool
  tie : Tie

/-- Positional from 10⁻⁵ to 10¹⁵, with a fraction; other exponents signed. -/
def dataStyle : Style := ⟨some (-5, 15), true, true, .even⟩

/-- Always positional, a whole number without a fraction. -/
def plainStyle : Style := ⟨none, false, false, .up⟩

/-- Positional from 10⁻⁴ to 10¹⁵, with a fraction; other exponents without a plus sign. -/
def auditStyle : Style := ⟨some (-4, 15), true, false, .up⟩

/-- `n` zeros. -/
def zeros (n : Nat) : String :=
  String.ofList (List.replicate n '0')

/-- The digits `ds` with the point after `whole` of them, filled up with zeros on either side. -/
def withPoint (style : Style) (ds : List Char) (whole : Int) : String :=
  if whole ≤ 0 then "0." ++ zeros (-whole).toNat ++ String.ofList ds
  else
    let w := whole.toNat
    if ds.length ≤ w then
      String.ofList ds ++ zeros (w - ds.length) ++ (if style.keepsFraction then ".0" else "")
    else String.ofList (ds.take w) ++ "." ++ String.ofList (ds.drop w)

/-- The digits `ds` in scientific form with the exponent `e`. -/
def scientific (style : Style) (ds : List Char) (e : Int) : String :=
  let mantissa := match ds with
    | [] => "0"
    | [d] => String.singleton d
    | d :: rest => String.singleton d ++ "." ++ String.ofList rest
  let mark := if e < 0 then "e-" else if style.signedExponent then "e+" else "e"
  mantissa ++ mark ++ toString e.natAbs

/-- The written form of a positive `Decimal`, in the `style`. -/
def Style.decimal (style : Style) (d : Decimal) : String :=
  let ds := Nat.toDigits 10 d.digits
  let e := d.scale + ds.length - 1
  match style.positional with
  | none => withPoint style ds (e + 1)
  | some (lo, hi) => if lo ≤ e && e ≤ hi then withPoint style ds (e + 1) else scientific style ds e

/-- The written form of a number in the `style`; one that is not finite is written as a word. -/
def Style.text (style : Style) (x : Float) : String :=
  if x.isNaN then "NaN"
  else
    let sign := if isNegative x then "-" else ""
    if x.isInf then sign ++ "inf"
    else if x == 0.0 then sign ++ (if style.keepsFraction then "0.0" else "0")
    else sign ++ style.decimal (shortest style.tie x)

/-- `num / den` rounded to a whole number, a half to the even neighbour. -/
def roundToEven (num den : Nat) : Nat :=
  let below := num / den
  let rest := num % den
  if 2 * rest < den then below
  else if den < 2 * rest then below + 1
  else if below % 2 = 0 then below else below + 1

/-- A number with exactly two places, a half going to the even neighbour. -/
def twoPlaces (x : Float) : String :=
  if x.isNaN then "NaN"
  else
    let sign := if isNegative x then "-" else ""
    if x.isInf then sign ++ "inf"
    else
      let (m, q) := binaryParts x
      let v := Fraction.scaled m 2 q
      let n := roundToEven (v.num * 100) v.den
      let cents := toString (n % 100)
      sign ++ toString (n / 100) ++ "." ++ (if n % 100 < 10 then "0" else "") ++ cents

end MailFilter.Number
