/-
Addresses as they are written.

A text that has an `@` is divided at the last one, so the local part may have further ones and the domain
has none.

* `splitLast_eq_some_iff`, `exists_dividedAtLast_iff`: where a text is divided, and that it is;
* `parse?_of_notMem`, `parse?_of_dividedAtLast`: what is read, without an `@` and by the two parts;
* `parse?_eq_some_iff`: an address is read from its written form and from nothing else;
* `reading_inverts_writing`: which texts are read, and which addresses come back.
-/
import MailFilter.Address
import MailFilter.Proofs.Text.Ends

namespace MailFilter.Address

open Text

/-! ### The last separator -/

theorem splitLast_eq_some_iff {cs before after : List Char} :
    splitLast cs = some (before, after) ↔ cs = before ++ '@' :: after ∧ '@' ∉ after := by
  constructor
  · intro h
    rw [splitLast] at h
    split at h
    · cases h
    · next c rest hdrop =>
      obtain ⟨rfl, rfl⟩ := Prod.mk.inj (Option.some.inj h)
      have hat : c = '@' := by
        simpa using not_of_head?_dropWhile (p := (· ≠ '@')) (congrArg List.head? hdrop)
      have hsplit := List.takeWhile_append_dropWhile (p := (· ≠ '@')) (l := cs.reverse)
      rw [hdrop, hat] at hsplit
      refine ⟨?_, ?_⟩
      · calc cs = cs.reverse.reverse := (List.reverse_reverse cs).symm
          _ = (cs.reverse.takeWhile (· ≠ '@') ++ '@' :: rest).reverse := by rw [hsplit]
          _ = rest.reverse ++ '@' :: (cs.reverse.takeWhile (· ≠ '@')).reverse := by simp
      · intro hmem
        have := List.mem_takeWhile_imp (List.mem_reverse.1 hmem)
        simp at this
  · rintro ⟨rfl, hafter⟩
    have hreverse : (before ++ '@' :: after).reverse = after.reverse ++ '@' :: before.reverse := by
      simp
    have hnot : '@' ∉ after.reverse := fun hmem => hafter (List.mem_reverse.1 hmem)
    rw [splitLast, hreverse, takeWhile_ne_append hnot, dropWhile_ne_append hnot]
    simp

/-- The two parts of a text, before and after its last `@`. -/
structure DividedAtLast (s before after : String) : Prop where
  joined : s = before ++ "@" ++ after
  last : '@' ∉ after.toList

variable {s before after : String}

theorem dividedAtLast_iff :
    DividedAtLast s before after ↔ splitLast s.toList = some (before.toList, after.toList) := by
  rw [splitLast_eq_some_iff]
  constructor
  · intro h
    refine ⟨?_, h.last⟩
    rw [h.joined]
    simp
  · rintro ⟨hs, hafter⟩
    refine ⟨String.toList_injective ?_, hafter⟩
    rw [hs]
    simp

theorem exists_dividedAtLast_iff :
    (∃ before after, DividedAtLast s before after) ↔ '@' ∈ s.toList := by
  constructor
  · rintro ⟨before, after, h⟩
    rw [h.joined]
    simp
  · intro h
    -- from behind, the last one comes first
    obtain ⟨after, before, hs, hafter⟩ := List.eq_append_cons_of_mem (List.mem_reverse.2 h)
    refine ⟨String.ofList before.reverse, String.ofList after.reverse,
      String.toList_injective ?_, by simpa using hafter⟩
    rw [← List.reverse_reverse s.toList, hs]
    simp

/-! ### Reading and writing -/

theorem parse?_of_notMem (h : '@' ∉ s.toList) : parse? s = none := by
  rw [parse?]
  split
  · next before after hsplit =>
    rw [(splitLast_eq_some_iff.1 hsplit).1] at h
    simp at h
  · rfl

theorem parse?_of_dividedAtLast (h : DividedAtLast s before after) :
    parse? s = if before = "" ∨ after = "" then none else some ⟨before, after⟩ := by
  rw [parse?, dividedAtLast_iff.1 h]
  simp

/-- An address is read by `parse?` from its written form, and from nothing else. -/
theorem parse?_eq_some_iff {a : Address} :
    parse? s = some a ↔
      DividedAtLast s a.localPart a.domain ∧ a.localPart ≠ "" ∧ a.domain ≠ "" := by
  constructor
  · intro h
    have hat : '@' ∈ s.toList := by
      by_contra hnot
      rw [parse?_of_notMem hnot] at h
      cases h
    obtain ⟨before, after, hdivided⟩ := exists_dividedAtLast_iff.2 hat
    rw [parse?_of_dividedAtLast hdivided, Option.ite_none_left_eq_some, not_or] at h
    obtain ⟨hparts, ha⟩ := h
    obtain rfl := Option.some.inj ha
    exact ⟨hdivided, hparts⟩
  · rintro ⟨hdivided, hparts⟩
    rw [parse?_of_dividedAtLast hdivided, if_neg (not_or.2 hparts)]

theorem text_of_parse? {a : Address} (h : parse? s = some a) : a.text = s := by
  obtain ⟨hdivided, -, hdomain⟩ := parse?_eq_some_iff.1 h
  rw [text, if_neg (by simpa using hdomain), hdivided.joined]

theorem dividedAtLast_text {a : Address} (hdomain : a.domain ≠ "") (hat : '@' ∉ a.domain.toList) :
    DividedAtLast a.text a.localPart a.domain := by
  refine ⟨?_, hat⟩
  rw [text, if_neg (by simpa using hdomain)]

theorem parse?_text_iff {a : Address} :
    parse? a.text = some a ↔ a.localPart ≠ "" ∧ a.domain ≠ "" ∧ '@' ∉ a.domain.toList := by
  constructor
  · intro h
    obtain ⟨hdivided, hlocal, hdomain⟩ := parse?_eq_some_iff.1 h
    exact ⟨hlocal, hdomain, hdivided.last⟩
  · rintro ⟨hlocal, hdomain, hat⟩
    exact parse?_eq_some_iff.2 ⟨dividedAtLast_text hdomain hat, hlocal, hdomain⟩

theorem isSome_parse?_iff :
    (parse? s).isSome = true ↔
      '@' ∈ s.toList ∧ ∀ before after, DividedAtLast s before after → before ≠ "" ∧ after ≠ "" := by
  constructor
  · intro h
    obtain ⟨a, ha⟩ := Option.isSome_iff_exists.1 h
    refine ⟨exists_dividedAtLast_iff.1 ⟨_, _, (parse?_eq_some_iff.1 ha).1⟩, fun before after hdivided => ?_⟩
    rw [parse?_of_dividedAtLast hdivided, Option.ite_none_left_eq_some] at ha
    exact not_or.1 ha.1
  · rintro ⟨hat, hparts⟩
    obtain ⟨before, after, hdivided⟩ := exists_dividedAtLast_iff.2 hat
    rw [parse?_of_dividedAtLast hdivided, if_neg (not_or.2 (hparts before after hdivided))]
    rfl

/-- **Reading inverts writing**: a text is read as an address just if it has an `@` and neither part is
missing at its last one; the address is then written as that text, and its domain has no `@`. And just the
addresses with both parts and without an `@` in the domain are read from what they are written as, whatever
is in the local part. -/
theorem reading_inverts_writing :
    (∀ s, (parse? s).isSome = true ↔
      '@' ∈ s.toList ∧ ∀ before after, DividedAtLast s before after → before ≠ "" ∧ after ≠ "") ∧
    (∀ s a, parse? s = some a → a.text = s ∧ '@' ∉ a.domain.toList) ∧
    ∀ a, parse? a.text = some a ↔ a.localPart ≠ "" ∧ a.domain ≠ "" ∧ '@' ∉ a.domain.toList := by
  refine ⟨fun s => isSome_parse?_iff, fun s a h => ⟨text_of_parse? h, ?_⟩, fun a => parse?_text_iff⟩
  exact (parse?_eq_some_iff.1 h).1.last

/-- A local part with an `@` of its own. -/
theorem reading_inverts_writing_nested :
    parse? "a@b@example.org" = some ⟨"a@b", "example.org"⟩ ∧
      (⟨"a@b", "example.org"⟩ : Address).text = "a@b@example.org" ∧
      '@' ∉ "example.org".toList ∧ (parse? "a@b@").isSome = false := by
  obtain ⟨hreads, hwritten, hback⟩ := reading_inverts_writing
  have hread : parse? "a@b@example.org" = some ⟨"a@b", "example.org"⟩ :=
    (hback ⟨"a@b", "example.org"⟩).2 ⟨by decide, by decide, by decide⟩
  obtain ⟨htext, hdomain⟩ := hwritten _ _ hread
  refine ⟨hread, htext, hdomain, Bool.eq_false_iff.2 fun h => ?_⟩
  exact (((hreads "a@b@").1 h).2 "a@b" "" ⟨by decide, by decide⟩).2 rfl

end MailFilter.Address
