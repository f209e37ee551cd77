/-
Characters that differ in case only.
-/
import MailFilter.Text.FoldTable
import MailFilter.Text.RangeTable

namespace MailFilter.Text

/-- The other case of a character that has just one. -/
def otherCase (n : Nat) : Option Nat :=
  match rowFor foldRuns n with
  | some (first, last, shift) =>
    if last < n then none
    else if shift = 0 then some (if (n - first) % 2 = 0 then n + 1 else n - 1)
    else some (n + shift).toNat
  | none => none

/-- The code points that differ from one in case only, itself first. -/
def family (n : Nat) : List Nat :=
  match otherCase n with
  | some other => [n, other]
  | none =>
    match if n < 0x4B then none else foldFamilies.find? fun f => f.contains n with
    | some members => n :: members
    | none => [n]

end MailFilter.Text
