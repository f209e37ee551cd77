/-
Points in time, counted in nanoseconds, and their written form in the calendar.
-/
import MailFilter.Number.Reading
import MailFilter.Text.Blank

namespace MailFilter

/-- A point in time: nanoseconds since the start of 1970 in universal time. Leap seconds are not
counted; the time in one is that of the second before it, marked. -/
structure Timestamp where
  nanos : Int
  inLeapSecond : Bool := false
  deriving DecidableEq, Repr

namespace Timestamp

/-- Nanoseconds in a second. -/
def second : Int := 1000000000

/-- A point in time later by `nanos` nanoseconds, never within a leap second. -/
def later (t : Timestamp) (nanos : Int) : Timestamp := { nanos := t.nanos + nanos }

/-- A point in time later by `secs` seconds. -/
def laterSecs (t : Timestamp) (secs : Int) : Timestamp := t.later (secs * second)

/-- How many nanoseconds lie between `start` and `t`. -/
def since (t start : Timestamp) : Int := t.nanos - start.nanos

/-! ### The calendar -/

/-- The number of days from the start of 1970 to a date. -/
def daysTo (year : Int) (month day : Nat) : Int :=
  -- years start in March, so that a leap day is the last one
  let y := if month ≤ 2 then year - 1 else year
  let era := y.fdiv 400
  let yearOfEra := y - era * 400
  let shifted : Int := if 2 < month then month - 3 else month + 9
  let dayOfYear := (153 * shifted + 2) / 5 + day - 1
  let dayOfEra := yearOfEra * 365 + yearOfEra / 4 - yearOfEra / 100 + dayOfYear
  era * 146097 + dayOfEra - 719468

/-- The year, month and day of a number of days since the start of 1970: the reverse of `daysTo`. -/
def dateOf (days : Int) : Int × Nat × Nat :=
  let z := days + 719468
  let era := z.fdiv 146097
  let dayOfEra := z - era * 146097
  let yearOfEra := (dayOfEra - dayOfEra / 1460 + dayOfEra / 36524 - dayOfEra / 146096) / 365
  let dayOfYear := dayOfEra - (365 * yearOfEra + yearOfEra / 4 - yearOfEra / 100)
  let shifted := (5 * dayOfYear + 2) / 153
  let day := dayOfYear - (153 * shifted + 2) / 5 + 1
  let month := if shifted < 10 then shifted + 3 else shifted - 9
  let year := yearOfEra + era * 400 + (if month ≤ 2 then 1 else 0)
  (year, month.toNat, day.toNat)

/-- Whether a year has a leap day. -/
def isLeap (year : Int) : Bool :=
  year % 4 = 0 && (year % 100 ≠ 0 || year % 400 = 0)

/-- The number of days of a month. -/
def daysIn (year : Int) (month : Nat) : Nat :=
  if month = 2 then (if isLeap year then 29 else 28)
  else if month = 4 || month = 6 || month = 9 || month = 11 then 30 else 31

/-! ### Writing -/

/-- A number with zeros in front, up to a width. -/
def padded (width n : Nat) : String :=
  let s := toString n
  String.ofList (List.replicate (width - s.length) '0') ++ s

/-- A fraction of a second with as many places as it needs: none, three, six or nine, `padded` with
zeros. -/
def fractionText (nanos : Nat) : String :=
  if nanos = 0 then ""
  else if nanos % 1000000 = 0 then "." ++ padded 3 (nanos / 1000000)
  else if nanos % 1000 = 0 then "." ++ padded 6 (nanos / 1000)
  else "." ++ padded 9 nanos

/-- A year of four digits; others have a sign. -/
def yearText (year : Int) : String :=
  if 0 ≤ year && year ≤ 9999 then padded 4 year.toNat
  else if year < 0 then "-" ++ padded 4 year.natAbs
  else "+" ++ padded 4 year.natAbs

/-- Date and time in universal time, with `fractionText` after the seconds. A leap second follows as the
one of its number. -/
def text (t : Timestamp) : String :=
  let secs := t.nanos.fdiv second
  let nanos := (t.nanos - secs * second).toNat
  let days := secs.fdiv 86400
  let clock := (secs - days * 86400).toNat
  let (year, month, day) := dateOf days
  yearText year ++ "-" ++ padded 2 month ++ "-" ++ padded 2 day ++ "T" ++
    padded 2 (clock / 3600) ++ ":" ++ padded 2 (clock / 60 % 60) ++ ":" ++
    padded 2 (clock % 60 + (if t.inLeapSecond then 1 else 0)) ++ fractionText nanos ++ "Z"

/-! ### Reading -/

/-- Reads up to `max` digits, at least `min`. -/
def readDigits (min max : Nat) (cs : List Char) : Option (Nat × List Char) :=
  let ds := (cs.takeWhile (Number.digitValue? · |>.isSome)).take max
  if ds.length < min then none
  else (Number.digitsValue? ds).map fun n => (n, cs.drop ds.length)

/-- Reads one given character. -/
def readChar (c : Char) : List Char → Option (List Char)
  | d :: rest => if d = c then some rest else none
  | [] => none

/-- Leaves out blanks. -/
def skipBlanks (cs : List Char) : List Char :=
  cs.dropWhile Text.isBlank

/-- Reads a year with `readDigits`; one with a sign may have more than four digits. -/
def readYear (cs : List Char) : Option (Int × List Char) :=
  match cs with
  | '-' :: rest => (readDigits 1 rest.length rest).map fun (n, rest) => (-(n : Int), rest)
  | '+' :: rest => (readDigits 1 rest.length rest).map fun (n, rest) => ((n : Int), rest)
  | _ => (readDigits 1 4 cs).map fun (n, rest) => ((n : Int), rest)

/-- Reads a fraction of a second, if a point starts one; digits after the ninth do not count. -/
def readFraction : List Char → Option (Nat × List Char)
  | '.' :: cs =>
    let ds := cs.takeWhile (Number.digitValue? · |>.isSome)
    if ds.isEmpty then none
    else
      let first := ds.take 9
      (Number.digitsValue? first).map fun n => (n * Nat.pow 10 (9 - first.length), cs.drop ds.length)
  | cs => some (0, cs)

/-- The sign of a distance. -/
def offsetSign? (c : Char) : Option Int :=
  if c = '+' then some 1 else if c = '-' || c = '−' then some (-1) else none

/-- Reads the distance from universal time, in seconds, after its `offsetSign?`. Colons and blanks may
stand between hours and minutes. -/
def readOffset : List Char → Option (Int × List Char)
  | [] => none
  | c :: rest =>
    if c = 'Z' || c = 'z' then some (0, rest)
    else if ((c :: rest).take 3).map Char.toLower = "utc".toList then some (0, rest.drop 2)
    else do
      let sign ← offsetSign? c
      let (hours, rest) ← readDigits 2 2 rest
      let (minutes, rest) ← readDigits 2 2 (rest.dropWhile fun c => c = ':' || Text.isBlank c)
      if 59 < minutes || 23 < hours then none
      else some (sign * ((hours * 3600 + minutes * 60 : Nat) : Int), rest)

/-- The first and the last year of the calendar. `parse?` reads no others. -/
def years : Int × Int := (-262143, 262142)

/-- Reads a date and a time with their distance from universal time, by `readYear`, `readDigits` and
`readOffset`. Blanks may stand between the parts. -/
def parse? (s : String) : Option Timestamp := do
  let (year, cs) ← readYear (skipBlanks s.toList)
  let cs ← readChar '-' (skipBlanks cs)
  let (month, cs) ← readDigits 1 2 (skipBlanks cs)
  let cs ← readChar '-' (skipBlanks cs)
  let (day, cs) ← readDigits 1 2 (skipBlanks cs)
  let cs ← match cs with
    | c :: rest => if c = 'T' || c = 't' || c = ' ' then some rest else none
    | [] => none
  let (hour, cs) ← readDigits 1 2 (skipBlanks cs)
  let cs ← readChar ':' (skipBlanks cs)
  let (minute, cs) ← readDigits 1 2 (skipBlanks cs)
  let cs ← readChar ':' (skipBlanks cs)
  let (sec, cs) ← readDigits 1 2 (skipBlanks cs)
  let (nanos, cs) ← readFraction cs
  let (offset, cs) ← readOffset (skipBlanks cs)
  if !(skipBlanks cs).isEmpty then none
  else if year < years.1 || years.2 < year then none
  else if month < 1 || 12 < month || day < 1 || daysIn year month < day then none
  else if 23 < hour || 59 < minute || 60 < sec then none
  else
    let secs := daysTo year month day * 86400 +
      (hour * 3600 + minute * 60 + min sec 59 : Nat) - offset
    some { nanos := secs * second + nanos, inLeapSecond := sec = 60 }

end Timestamp

end MailFilter
