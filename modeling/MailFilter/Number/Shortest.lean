/-
The fewest decimal digits that identify a binary floating-point number.

A positive number is `m · 2 ^ q`. The numbers that round to it form an interval around it, ends
included iff `m` is even. Of the decimal grids with 1, 2, … 17 digits the first one with a point in
the interval gives the digits, and of its points the one nearest to the number.
-/
namespace MailFilter.Number

/-- A positive number `digits · 10 ^ scale`. -/
structure Decimal where
  digits : Nat
  scale : Int
  deriving Repr, DecidableEq

/-- A fraction of natural numbers. -/
structure Fraction where
  num : Nat
  den : Nat

/-- `a ≤ b`. -/
def Fraction.le (a b : Fraction) : Bool :=
  a.num * b.den ≤ b.num * a.den

/-- `a < b`. -/
def Fraction.lt (a b : Fraction) : Bool :=
  a.num * b.den < b.num * a.den

/-- `n · base ^ e`. -/
def Fraction.scaled (n base : Nat) (e : Int) : Fraction :=
  if 0 ≤ e then ⟨n * Nat.pow base e.toNat, 1⟩ else ⟨n, Nat.pow base (-e).toNat⟩

/-- The leading bit of `m`, which is not written out for numbers that have it. -/
def hiddenBit : Nat := 1 <<< 52

/-- The parts `m` and `q` of the absolute value `m · 2 ^ q` of a finite number. -/
def binaryParts (x : Float) : Nat × Int :=
  let bits := x.toBits.toNat
  let exponent : Nat := bits >>> 52 % 2048
  let fraction : Nat := bits % hiddenBit
  if exponent = 0 then (fraction, -1074) else (fraction + hiddenBit, (exponent : Int) - 1075)

/-- Whether the sign bit is set. -/
def isNegative (x : Float) : Bool :=
  x.toBits.toNat >>> 63 == 1

/-- Which of two equally near grid points is taken. -/
inductive Tie where
  | up
  | even
  deriving Repr, DecidableEq

/-- Whether a fraction rounds to `m · 2 ^ q`. -/
def roundsTo (m : Nat) (q : Int) (x : Fraction) : Bool :=
  -- the gap below a power of two is half as wide as the one above
  let lowest := if m = hiddenBit && q > -1074 then Fraction.scaled (4 * m - 1) 2 (q - 2)
    else Fraction.scaled (4 * m - 2) 2 (q - 2)
  let highest := Fraction.scaled (4 * m + 2) 2 (q - 2)
  if m % 2 = 0 then lowest.le x && x.le highest else lowest.lt x && x.lt highest

/-- The exponent `k` with `10 ^ k ≤ x < 10 ^ (k + 1)`, looked for downwards from `k`. -/
def leadingExponent (x : Fraction) : Nat → Int → Int
  | 0, k => k
  | fuel + 1, k => if (Fraction.scaled 1 10 k).le x then k else leadingExponent x fuel (k - 1)

/-- The point nearest to `x` of the two points of the grid `10 ^ e` around it that pass `ok`. -/
def nearestOnGrid (tie : Tie) (ok : Fraction → Bool) (x : Fraction) (e : Int) : Option Decimal :=
  let unit := Fraction.scaled 1 10 e
  -- x / unit
  let num := x.num * unit.den
  let den := x.den * unit.num
  let below := num / den
  let rest := num % den
  let lowOk := 0 < below && ok (Fraction.scaled below 10 e)
  let highOk := ok (Fraction.scaled (below + 1) 10 e)
  match lowOk, highOk with
  | false, false => none
  | true, false => some ⟨below, e⟩
  | false, true => some ⟨below + 1, e⟩
  | true, true =>
    if 2 * rest < den then some ⟨below, e⟩
    else if den < 2 * rest then some ⟨below + 1, e⟩
    else match tie with
      | .up => some ⟨below + 1, e⟩
      | .even => some ⟨if below % 2 = 0 then below else below + 1, e⟩

/-- Moves the zeros at the end of the digits into the scale. -/
def Decimal.strip : Nat → Decimal → Decimal
  | 0, d => d
  | fuel + 1, d => if d.digits % 10 = 0 then strip fuel ⟨d.digits / 10, d.scale + 1⟩ else d

/-- The fewest digits that identify the absolute value of a finite number other than zero. -/
def shortest (tie : Tie) (x : Float) : Decimal :=
  let (m, q) := binaryParts x
  let v := Fraction.scaled m 2 q
  let k := leadingExponent v 640 309
  let found := (List.range 17).findSome? fun (n : Nat) =>
    nearestOnGrid tie (roundsTo m q) v (k - n)
  (found.getD ⟨m, q⟩).strip 20

end MailFilter.Number
