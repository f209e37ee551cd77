/-
The small form of a text in any script.

Each character becomes its small letter. Two letters need more: the dotted capital I becomes a
small i and a combining dot, and a capital sigma that ends a word becomes the final small sigma.
-/
import MailFilter.Text.CaseTable
import MailFilter.Text.RangeTable

namespace MailFilter.Text

/-- The small letter of a character that has one of its own. -/
def lowerChar (c : Char) : Char :=
  match rowFor lowerRuns c.toNat with
  | some (first, last, step, shift) =>
    if c.toNat ≤ last && (c.toNat - first) % step == 0 then
      Char.ofNat (Int.toNat (c.toNat + shift))
    else c
  | none => c

/-- Whether the nearest character that case looks at is a cased one. -/
def meetsCased : List Char → Bool
  | [] => false
  | c :: cs => if inRanges caseIgnorableRanges c then meetsCased cs else inRanges casedRanges c

/-- The small form of `c` between the text `before`, nearest first, and the text `after`. -/
def lowerAt (before : List Char) (c : Char) (after : List Char) : List Char :=
  if c = 'Σ' then
    if meetsCased before && !meetsCased after then ['ς'] else ['σ']
  else if c = 'İ' then ['i', '\u0307']
  else if c.toNat < 128 then [c.toLower]
  else [lowerChar c]

/-- Goes through a text with the part already read, last character first, at hand. -/
def lowerFrom (before : List Char) : List Char → List Char
  | [] => []
  | c :: after => lowerAt before c after ++ lowerFrom (c :: before) after

/-- The small form of a text. -/
def lowercase (s : String) : String :=
  String.ofList (lowerFrom [] s.toList)

end MailFilter.Text
