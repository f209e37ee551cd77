/-
How enhanced codes are spelled, and the texts that they are split off.

The spelling is told here character by character, and a text by its pieces, without a word of how either
is taken apart.

* `isNumber_iff`, `spelling_iff`: the codes that can be read are those that are spelled so;
* `prefaced_iff`: the two ways to say that a text starts with a code;
* `splitText_eq_some_iff`, `splitText_eq_none_iff`: what a text is split into, and when it is not split;
* `splits_as_spelled`: both, for each text.
-/
import MailFilter.Proofs.Milter.Codes

namespace MailFilter.Milter

namespace EnhancedCode

/-! ### Spelling -/

/-- One to three of the digits from 0 to 9. -/
structure Numeral (cs : List Char) : Prop where
  ne_nil : cs ≠ []
  length_le : cs.length ≤ 3
  digits : ∀ c ∈ cs, '0' ≤ c ∧ c ≤ '9'

/-- One of the digits 2, 4 and 5, and then, twice, a point and a `Numeral`. -/
inductive Spelling : List Char → Prop where
  | code {kind : Char} {subject detail : List Char} (hkind : kind = '2' ∨ kind = '4' ∨ kind = '5')
      (hsubject : Numeral subject) (hdetail : Numeral detail) :
      Spelling (kind :: '.' :: subject ++ '.' :: detail)

theorem isDigit_iff {c : Char} : c.isDigit = true ↔ '0' ≤ c ∧ c ≤ '9' := by
  rw [Char.isDigit, Bool.and_eq_true, decide_eq_true_eq, decide_eq_true_eq]
  rfl

theorem isNumber_iff {cs : List Char} : isNumber cs = true ↔ Numeral cs := by
  simp only [isNumber, Bool.and_eq_true, Bool.not_eq_true', List.isEmpty_eq_false_iff,
    decide_eq_true_eq, List.all_eq_true, isDigit_iff]
  exact ⟨fun h => ⟨h.1.1, h.1.2, h.2⟩, fun h => ⟨⟨h.ne_nil, h.length_le⟩, h.digits⟩⟩

theorem mem_kinds_iff {kind : Char} : kind ∈ kinds ↔ kind = '2' ∨ kind = '4' ∨ kind = '5' := by
  simp [kinds]

/-- What is spelled as a code is what a `WellFormed` code can be `written` as. -/
theorem spelling_iff {cs : List Char} :
    Spelling cs ↔ ∃ c : EnhancedCode, c.WellFormed ∧ cs = c.written := by
  constructor
  · rintro ⟨hkind, hsubject, hdetail⟩
    exact ⟨⟨_, _, _⟩, ⟨mem_kinds_iff.2 hkind, isNumber_iff.2 hsubject, isNumber_iff.2 hdetail⟩, rfl⟩
  · rintro ⟨c, hc, rfl⟩
    exact .code (mem_kinds_iff.1 hc.kind) (isNumber_iff.1 hc.subject) (isNumber_iff.1 hc.detail)

end EnhancedCode

open EnhancedCode

/-! ### Texts that start with a code -/

/-- A text is a code, a space, perhaps more blanks, and something that does not start with a blank. -/
structure Prefaced (cs code rest : List Char) : Prop where
  spelling : Spelling code
  pieces : ∃ blanks, (∀ b ∈ blanks, Text.isBlank b = true) ∧ cs = code ++ ' ' :: blanks ++ rest
  rest_ne_nil : rest ≠ []
  starts : ∀ b, rest.head? = some b → Text.isBlank b = false

variable {cs code rest : List Char}

theorem prefaced_iff :
    Prefaced cs code rest ↔ ∃ c : EnhancedCode, c.Leads cs rest ∧ code = c.written := by
  constructor
  · intro h
    obtain ⟨c, hc, rfl⟩ := spelling_iff.1 h.spelling
    exact ⟨c, ⟨hc, h.pieces, h.rest_ne_nil, h.starts⟩, rfl⟩
  · rintro ⟨c, hc, rfl⟩
    exact ⟨spelling_iff.2 ⟨c, hc.wellFormed, rfl⟩, hc.spelled, hc.rest_ne_nil, hc.starts⟩

/-- What `splitEnhanced` splits a text into, with the code as it is written. -/
def splitText (cs : List Char) : Option (List Char) × List Char :=
  (splitEnhanced cs).map (Option.map written) id

theorem splitText_eq_some_iff : splitText cs = (some code, rest) ↔ Prefaced cs code rest := by
  rw [prefaced_iff]
  constructor
  · intro h
    obtain ⟨hcode, hrest⟩ := Prod.mk.inj h
    obtain ⟨c, hc, rfl⟩ := Option.map_eq_some_iff.1 hcode
    exact ⟨c, splitEnhanced_eq_some_iff.1 (Prod.ext hc hrest), rfl⟩
  · rintro ⟨c, hc, rfl⟩
    rw [splitText, splitEnhanced_eq_some_iff.2 hc]
    rfl

theorem splitText_eq_none_iff :
    splitText cs = (none, cs) ↔ ∀ code rest, ¬ Prefaced cs code rest := by
  constructor
  · intro h code rest hprefaced
    rw [splitText_eq_some_iff.2 hprefaced] at h
    cases (Prod.mk.inj h).1
  · intro h
    have hnone : ∀ (c : EnhancedCode) rest, ¬ c.Leads cs rest :=
      fun c rest hc => h c.written rest (prefaced_iff.2 ⟨c, hc, rfl⟩)
    rw [splitText, splitEnhanced_eq_none_iff.2 hnone]
    rfl

/-- **Codes are split off as they are spelled**: `splitText` splits a text into a code and a rest just if
it is that code, a space, perhaps more blanks, and that rest; each other text is left whole, without a
code. -/
theorem splits_as_spelled (cs : List Char) :
    (∀ code rest, splitText cs = (some code, rest) ↔ Prefaced cs code rest) ∧
      (splitText cs = (none, cs) ↔ ∀ code rest, ¬ Prefaced cs code rest) :=
  ⟨fun _ _ => splitText_eq_some_iff, splitText_eq_none_iff⟩

/-- Blanks of all kinds may stand between a code and the rest, but a space has to come first, and a code
has three parts and no more. -/
example :
    splitText "5.1.1 \t\u2003User unknown".toList = (some "5.1.1".toList, "User unknown".toList) ∧
      splitText "5.1.1\tUser unknown".toList = (none, "5.1.1\tUser unknown".toList) ∧
      splitText "5.1.1.1 User unknown".toList = (none, "5.1.1.1 User unknown".toList) ∧
      splitText "5.1.1 \u2003".toList = (none, "5.1.1 \u2003".toList) := by
  decide +kernel

end MailFilter.Milter
