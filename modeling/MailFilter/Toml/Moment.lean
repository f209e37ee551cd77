/-
Dates and times in TOML, and the one form that stands for all ways to write them.
-/
import MailFilter.Time

namespace MailFilter.Toml

open Timestamp (padded readChar readDigits)

/-- Reads a number of two digits from `min` to `max`. -/
def readTwo (min max : Nat) (cs : List Char) : Option (Nat × List Char) :=
  (readDigits 2 2 cs).filter fun r => min ≤ r.1 && r.1 ≤ max

/-- Reads a date and yields its written form; month and day are read by `readTwo`. -/
def readDate (cs : List Char) : Option (String × List Char) := do
  let (year, cs) ← readDigits 4 4 cs
  let cs ← readChar '-' cs
  let (month, cs) ← readTwo 1 12 cs
  let cs ← readChar '-' cs
  let (day, cs) ← readTwo 1 (Timestamp.daysIn year month) cs
  return (padded 4 year ++ "-" ++ padded 2 month ++ "-" ++ padded 2 day, cs)

/-- The written form of a fraction of a second: as many of nine digits as it needs. -/
def fractionText (nanos : Nat) : String :=
  if nanos = 0 then ""
  else "." ++ String.ofList (Text.dropLastWhile (· = '0') (padded 9 nanos).toList)

/-- Reads a time of day, which may be a leap second, and yields its written form, with `fractionText`
after the seconds. -/
def readTime (cs : List Char) : Option (String × List Char) := do
  let (hour, cs) ← readTwo 0 23 cs
  let cs ← readChar ':' cs
  let (minute, cs) ← readTwo 0 59 cs
  let cs ← readChar ':' cs
  let (sec, cs) ← readTwo 0 60 cs
  let (nanos, cs) ← Timestamp.readFraction cs
  return (padded 2 hour ++ ":" ++ padded 2 minute ++ ":" ++ padded 2 sec ++ fractionText nanos, cs)

/-- The written form of the distance from universal time, which ends the text if there is one. -/
def offset? : List Char → Option String
  | [] => some ""
  | ['Z'] => some "Z"
  | ['z'] => some "Z"
  | sign :: cs => do
    guard (sign = '+' || sign = '-')
    let (hour, cs) ← readTwo 0 23 cs
    let cs ← readChar ':' cs
    let (minute, cs) ← readTwo 0 59 cs
    guard cs.isEmpty
    let shown := if hour = 0 && minute = 0 then '+' else sign
    return String.singleton shown ++ padded 2 hour ++ ":" ++ padded 2 minute

/-- The written form of a date, by `readDate`, a time of day, by `readTime`, or both. -/
def moment? (cs : List Char) : Option String :=
  match readDate cs with
  | some (date, []) => some date
  | some (date, mark :: rest) => do
    guard (mark = 'T' || mark = 't' || mark = ' ')
    let (time, rest) ← readTime rest
    return date ++ "T" ++ time ++ (← offset? rest)
  | none =>
    match readTime cs with
    | some (time, []) => some time
    | _ => none

end MailFilter.Toml
