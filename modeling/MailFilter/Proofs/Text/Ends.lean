/-
Taking characters off the ends of a text.

* `takeWhile_ne_append`, `dropWhile_ne_append`: a text is divided at the first of its separators;
* `dropLastWhile_dropWhile_comm`: it does not matter at which end one begins;
* `trimChars_reverse`: trimming does the same at both ends.
-/
import Mathlib.Data.List.TakeWhile
import MailFilter.Text.Blank

namespace MailFilter.Text

/-! ### Up to a separator -/

theorem ne_of_notMem {x : Char} {cs : List Char} (h : x ∉ cs) :
    ∀ c ∈ cs, decide (c ≠ x) = true :=
  fun _ hc => decide_eq_true fun heq => h (heq ▸ hc)

theorem takeWhile_ne_append {x : Char} {cs : List Char} (h : x ∉ cs) (tail : List Char) :
    (cs ++ x :: tail).takeWhile (· ≠ x) = cs := by
  rw [List.takeWhile_append_of_pos (ne_of_notMem h), List.takeWhile_cons_of_neg (by simp),
    List.append_nil]

theorem dropWhile_ne_append {x : Char} {cs : List Char} (h : x ∉ cs) (tail : List Char) :
    (cs ++ x :: tail).dropWhile (· ≠ x) = x :: tail := by
  rw [List.dropWhile_append_of_pos (ne_of_notMem h), List.dropWhile_cons_of_neg (by simp)]

/-! ### Both ends -/

variable {p : Char → Bool}

theorem dropLastWhile_reverse (p : Char → Bool) (cs : List Char) :
    dropLastWhile p cs.reverse = (cs.dropWhile p).reverse := by
  rw [dropLastWhile, List.reverse_reverse]

/-- Nothing before a character that stays is dropped by `dropLastWhile`. -/
theorem dropLastWhile_append_of_not {c : Char} (h : p c = false) (cs tail : List Char) :
    dropLastWhile p (cs ++ c :: tail) = cs ++ c :: dropLastWhile p tail := by
  simp only [dropLastWhile, List.reverse_append, List.reverse_cons, List.append_assoc,
    List.dropWhile_append]
  split
  · next hnone =>
    rw [List.isEmpty_iff.1 hnone]
    simp [h]
  · simp

theorem dropLastWhile_cons (c : Char) (cs : List Char) :
    dropLastWhile p (c :: cs)
      = if dropLastWhile p cs = [] ∧ p c = true then [] else c :: dropLastWhile p cs := by
  simp only [dropLastWhile, List.reverse_cons, List.dropWhile_append, List.isEmpty_iff,
    List.reverse_eq_nil_iff]
  by_cases hnone : cs.reverse.dropWhile p = [] <;> by_cases hc : p c = true <;> simp [hnone, hc]

/-- What `dropWhile` drops at the one end and what `dropLastWhile` drops at the other have nothing to do
with each other. -/
theorem dropLastWhile_dropWhile_comm (p q : Char → Bool) (cs : List Char) :
    dropLastWhile q (cs.dropWhile p) = (dropLastWhile q cs).dropWhile p := by
  induction cs with
  | nil => rfl
  | cons c cs ih =>
    rw [dropLastWhile_cons]
    by_cases hc : p c = true
    · rw [List.dropWhile_cons_of_pos hc, ih]
      split
      · next hnone =>
        rw [hnone.1]
      · rw [List.dropWhile_cons_of_pos hc]
    · rw [List.dropWhile_cons_of_neg hc, dropLastWhile_cons]
      split
      · rfl
      · rw [List.dropWhile_cons_of_neg hc]

theorem trimChars_reverse (cs : List Char) : trimChars cs.reverse = (trimChars cs).reverse := by
  rw [trimChars, dropLastWhile_dropWhile_comm, dropLastWhile_reverse, trimChars, dropLastWhile,
    List.reverse_reverse]

/-- Only blanks are taken off by `trimChars`. -/
theorem exists_append_trimChars (cs : List Char) : ∃ lead trail, cs = lead ++ (trimChars cs ++ trail) ∧
    (∀ c ∈ lead, isBlank c = true) ∧ ∀ c ∈ trail, isBlank c = true := by
  obtain ⟨trail, htrail, hblank⟩ := exists_append_dropLastWhile isBlank (cs.dropWhile isBlank)
  refine ⟨cs.takeWhile isBlank, trail, ?_, fun c hc => List.mem_takeWhile_imp hc, hblank⟩
  rw [trimChars, ← htrail, List.takeWhile_append_dropWhile]

theorem length_dropLastWhile_le (p : Char → Bool) (cs : List Char) :
    (dropLastWhile p cs).length ≤ cs.length := by
  calc (dropLastWhile p cs).length = (cs.reverse.dropWhile p).length := List.length_reverse
    _ ≤ cs.reverse.length := List.length_dropWhile_le ..
    _ = cs.length := List.length_reverse

theorem length_trimChars_le (cs : List Char) : (trimChars cs).length ≤ cs.length :=
  (length_dropLastWhile_le ..).trans (List.length_dropWhile_le ..)

/-- The first character that `trimChars` leaves stands behind blanks. -/
theorem exists_of_head?_trimChars {cs : List Char} {c : Char} (h : (trimChars cs).head? = some c) :
    ∃ gap rest, cs = gap ++ c :: rest ∧ ∀ b ∈ gap, isBlank b = true := by
  obtain ⟨lead, trail, hcs, hlead, -⟩ := exists_append_trimChars cs
  obtain ⟨rest, hrest⟩ := List.head?_eq_some_iff.1 h
  refine ⟨lead, rest ++ trail, ?_, hlead⟩
  rw [hrest] at hcs
  exact hcs

/-- Of a text that begins with blanks, `trimChars` keeps the first other character. -/
theorem trimChars_append_cons {gap : List Char} {c : Char} (hgap : ∀ b ∈ gap, isBlank b = true)
    (hc : isBlank c = false) (rest : List Char) :
    trimChars (gap ++ c :: rest) = c :: dropLastWhile isBlank rest := by
  rw [trimChars, List.dropWhile_append_of_pos hgap, List.dropWhile_cons_of_neg (by simp [hc])]
  exact dropLastWhile_append_of_not hc [] rest

end MailFilter.Text
