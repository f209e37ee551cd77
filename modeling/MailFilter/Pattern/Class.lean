/-
Classes of characters.
-/
import MailFilter.Text.Blank
import MailFilter.Text.DigitTable
import MailFilter.Text.Family
import MailFilter.Text.WordTable

namespace MailFilter

/-- A class of characters. -/
inductive CharClass where
  | range (first last : Nat)
  | digit
  | word
  | space
  | none
  | union (a b : CharClass)
  | inter (a b : CharClass)
  | except (a b : CharClass)
  | onlyOne (a b : CharClass)
  | complement (a : CharClass)
  /-- The characters that differ from one of the class in case only. -/
  | caseless (a : CharClass)
  deriving Repr

namespace CharClass

/-- The class of one character. -/
def single (c : Char) : CharClass :=
  range c.toNat c.toNat

/-- The `union` of ranges given by their ends. -/
def ofRanges (ranges : List (Char × Char)) : CharClass :=
  ranges.foldl (fun a r => union a (range r.1.toNat r.2.toNat)) none

/-- Every character. -/
def any : CharClass :=
  complement none

/-- Whether a class holds a code point, of which the other cases are known as its `family`. -/
def holds (family : List Nat) : CharClass → Nat → Bool
  | range first last, n => first ≤ n && n ≤ last
  | digit, n => Text.inRanges Text.digitRanges (Char.ofNat n)
  | word, n => Text.inRanges Text.wordRanges (Char.ofNat n)
  | space, n => Text.isBlank (Char.ofNat n)
  | none, _ => false
  | union a b, n => holds family a n || holds family b n
  | inter a b, n => holds family a n && holds family b n
  | except a b, n => holds family a n && !holds family b n
  | onlyOne a b, n => holds family a n != holds family b n
  | complement a, n => !holds family a n
  | caseless a, _ => family.any (holds family a)

end CharClass

end MailFilter
