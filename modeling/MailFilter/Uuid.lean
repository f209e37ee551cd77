/-
Identifiers of 128 bits.

An identifier is written as 32 hexadecimal digits, with hyphens in the usual form. Identifiers given
out by the filter carry the version 7 and count upwards, so their order is that of their creation.
-/
import MailFilter.Data.Token
import MailFilter.Data.Printer

namespace MailFilter

/-- An identifier. -/
structure Uuid where
  value : Nat
  deriving DecidableEq, Repr

namespace Uuid

/-- The lowest `n` hexadecimal digits of a number, the highest of them first. -/
def hexDigits (value : Nat) : Nat → List Char
  | 0 => []
  | n + 1 => hexDigits (value / 16) n ++ [Data.hexDigit (value % 16)]

/-- The 32 digits of an identifier. -/
def digits (u : Uuid) : List Char :=
  hexDigits u.value 32

/-- The `digits` without hyphens. -/
def simple (u : Uuid) : String :=
  String.ofList u.digits

/-- The usual form of the `digits`, with hyphens. -/
def text (u : Uuid) : String :=
  let part (start length : Nat) := String.ofList ((u.digits.drop start).take length)
  part 0 8 ++ "-" ++ part 8 4 ++ "-" ++ part 12 4 ++ "-" ++ part 16 4 ++ "-" ++ part 20 12

/-- The version: the first digit of the third group. -/
def version (u : Uuid) : Nat :=
  u.value >>> 76 % 16

/-- The identifier given out as number `serial`. -/
def issued (serial : Nat) : Uuid :=
  ⟨(serial >>> 62) <<< 80 + 7 <<< 76 + 1 <<< 63 + serial % (1 <<< 62)⟩

/-- The value of 32 hexadecimal digits. -/
def readDigits (cs : List Char) : Option Uuid :=
  if cs.length = 32 then
    (cs.foldl (fun acc c => acc.bind fun n => (Data.hexValue? c).map (16 * n + ·)) (some 0)).map
      Uuid.mk
  else none

/-- Reads the usual form: groups of 8, 4, 4, 4 and 12 digits, for `readDigits`. -/
def readHyphenated (cs : List Char) : Option Uuid :=
  let hyphens := [8, 13, 18, 23]
  if cs.length = 36 && hyphens.all (fun i => cs[i]? == some '-') then
    readDigits (cs.filter (· ≠ '-'))
  else none

/-- Reads an identifier: with or without hyphens, in braces, or as a URN. -/
def parse? (s : String) : Option Uuid :=
  let cs := s.toList
  let urn := "urn:uuid:".toList
  match cs.length with
  | 32 => readDigits cs
  | 36 => readHyphenated cs
  | 38 =>
    if cs.head? = some '\x7b' && cs.getLast? = some '\x7d' then readHyphenated (cs.drop 1).dropLast
    else none
  | 45 => if urn.isPrefixOf cs then readHyphenated (cs.drop 9) else none
  | _ => none

end Uuid

end MailFilter
