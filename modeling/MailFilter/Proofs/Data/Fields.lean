/-
Lists whose elements have keys.

An element is found by its key if no other one has the same. Fields are kept in the order of their keys;
of several with one key the last one stays, and the others are dropped.

* `find?_of_nodup`: an element among others with distinct keys;
* `Fields.find?_insert`: a field that has been set, and all others;
* `Fields.sorted_insert`, `Fields.sorted_ofList`: the keys are in order, each of them once;
* `Fields.mem_lasting_iff`, `Fields.ofList_perm`: the fields that are kept are those that no later one has
  the key of;
* `Fields.perm_lasting_outdone`: every field is kept or dropped.
-/
import Mathlib.Data.List.Nodup
import MailFilter.Data.Fields

namespace MailFilter

/-- An element is found by its `key` if no other one has the same. -/
theorem find?_of_nodup {α κ : Type} {key : α → κ} {elements : List α} {a : α} {p : α → Bool}
    (hd : (elements.map key).Nodup) (ha : a ∈ elements) (hp : ∀ b, p b = true ↔ key b = key a) :
    elements.find? p = some a := by
  cases hfound : elements.find? p with
  | none => exact absurd ((hp a).2 rfl) (List.find?_eq_none.1 hfound a ha)
  | some b =>
    have hkey : key b = key a := (hp b).1 (List.find?_some hfound)
    rw [List.inj_on_of_nodup_map hd (List.mem_of_find?_eq_some hfound) ha hkey]

namespace Fields

variable {α β : Type} {key : String} {value : α} {fields entries : List (String × α)}

/-- Every key of `fields` is less than those after it. -/
def Sorted (fields : List (String × α)) : Prop :=
  fields.Pairwise fun a b => a.1 < b.1

theorem find?_insert (key other : String) (value : α) (fields : List (String × α)) :
    find? other (insert key value fields)
      = if key = other then some value else find? other fields := by
  by_cases h : key = other
  · rw [if_pos h, ← h, find?_insert_self]
  · rw [if_neg h, find?_insert_of_ne (Ne.symm h)]

theorem find?_eq_none (h : ∀ field ∈ fields, field.1 ≠ key) : find? key fields = none := by
  induction fields with
  | nil => rfl
  | cons field rest ih =>
    obtain ⟨hfield, hrest⟩ := List.forall_mem_cons.1 h
    rw [find?, if_neg hfield, ih hrest]

theorem find?_of_mem (h : Sorted fields) {field : String × α} (hmem : field ∈ fields) :
    find? field.1 fields = some field.2 := by
  induction fields with
  | nil => cases hmem
  | cons first rest ih =>
    obtain ⟨hfirst, hrest⟩ := List.pairwise_cons.1 h
    rw [find?]
    rcases List.mem_cons.1 hmem with rfl | hmem
    · rw [if_pos rfl]
    · have hne : first.1 ≠ field.1 := fun heq => String.lt_irrefl _ (heq ▸ hfirst field hmem)
      rw [if_neg hne, ih hrest hmem]

/-- Removing a field leaves all that `find?` finds under other keys. -/
theorem find?_filter_ne (key other : String) (fields : List (String × α)) :
    find? other (fields.filter fun field => field.1 ≠ key)
      = if key = other then none else find? other fields := by
  by_cases h : key = other
  · rw [if_pos h]
    refine find?_eq_none fun field hfield => ?_
    simpa [h] using (List.mem_filter.1 hfield).2
  · rw [if_neg h]
    induction fields with
    | nil => rfl
    | cons field rest ih =>
      by_cases hkey : field.1 = key
      · have hother : field.1 ≠ other := fun heq => h (hkey.symm.trans heq)
        rw [List.filter_cons_of_neg (by simpa using hkey), find?, if_neg hother, ih]
      · rw [List.filter_cons_of_pos (by simpa using hkey), find?, find?, ih]

/-- Setting a value with `insert` adds no other field. -/
theorem mem_insert {value : α} {field : String × α} (h : field ∈ insert key value fields) :
    field = (key, value) ∨ field ∈ fields := by
  induction fields with
  | nil => exact .inl (List.mem_singleton.1 h)
  | cons f rest ih =>
    rw [insert] at h
    split at h
    · rcases List.mem_cons.1 h with rfl | h
      · exact .inl rfl
      · exact .inr (List.mem_cons_of_mem _ h)
    · split at h
      · exact List.mem_cons.1 h
      · rcases List.mem_cons.1 h with rfl | h
        · exact .inr List.mem_cons_self
        · exact (ih h).imp_right (List.mem_cons_of_mem _)

theorem sorted_insert (h : Sorted fields) (key : String) (value : α) :
    Sorted (insert key value fields) := by
  induction fields with
  | nil => exact List.pairwise_singleton ..
  | cons field rest ih =>
    obtain ⟨hfirst, hrest⟩ := List.pairwise_cons.1 h
    rw [insert]
    split
    · next heq =>
      subst heq
      exact List.pairwise_cons.2 ⟨hfirst, hrest⟩
    · next hne =>
      split
      · next hlt =>
        refine List.pairwise_cons.2 ⟨fun f hf => ?_, h⟩
        rcases List.mem_cons.1 hf with rfl | hf
        · exact hlt
        · exact String.lt_trans hlt (hfirst f hf)
      · next hge =>
        refine List.pairwise_cons.2 ⟨fun f hf => ?_, ih hrest⟩
        rcases mem_insert hf with heq | hf
        · rw [heq]
          exact Std.lt_of_le_of_ne (String.not_lt.1 hge) (Ne.symm hne)
        · exact hfirst f hf

/-- A field that `insert` sets takes the place of the one with its key. -/
theorem insert_perm (h : Sorted fields) : (insert key value fields).Perm
    ((key, value) :: fields.filter fun f => f.1 ≠ key) := by
  induction fields with
  | nil => exact .refl _
  | cons field rest ih =>
    obtain ⟨hfirst, hrest⟩ := List.pairwise_cons.1 h
    rw [insert]
    split
    · next heq =>
      -- the keys behind are greater
      have hkept : rest.filter (fun f => f.1 ≠ key) = rest :=
        List.filter_eq_self.2 fun f hf => decide_eq_true fun hsame =>
          String.lt_irrefl _ (heq ▸ hsame ▸ hfirst f hf)
      rw [List.filter_cons_of_neg (by simpa using heq.symm), hkept]
    · next hne =>
      rw [List.filter_cons_of_pos (by simpa using Ne.symm hne)]
      split
      · next hlt =>
        have hkept : rest.filter (fun f => f.1 ≠ key) = rest :=
          List.filter_eq_self.2 fun f hf => decide_eq_true fun hsame =>
            String.lt_irrefl _ (String.lt_trans hlt (hsame ▸ hfirst f hf))
        rw [hkept]
      · exact ((ih hrest).cons _).trans (.swap ..)

theorem insert_map (f : α → β) (key : String) (value : α) (fields : List (String × α)) :
    insert key (f value) (fields.map (Prod.map id f)) = (insert key value fields).map (Prod.map id f) := by
  induction fields with
  | nil => rfl
  | cons field rest ih =>
    rw [List.map_cons, insert, insert]
    simp only [Prod.map_fst, Prod.map_snd, id_eq]
    split
    · rfl
    · split
      · rfl
      · rw [ih, List.map_cons, Prod.map_apply, id_eq]

/-! ### Many fields, the last one of each key -/

/-- The entries that no later one has the key of. -/
def lasting : List (String × α) → List (String × α)
  | [] => []
  | e :: rest => if e.1 ∈ rest.map Prod.fst then lasting rest else e :: lasting rest

/-- The entries that some later one has the key of. -/
def outdone : List (String × α) → List (String × α)
  | [] => []
  | e :: rest => if e.1 ∈ rest.map Prod.fst then e :: outdone rest else outdone rest

theorem perm_lasting_outdone (entries : List (String × α)) :
    entries.Perm (lasting entries ++ outdone entries) := by
  induction entries with
  | nil => exact .refl _
  | cons e rest ih =>
    rw [lasting, outdone]
    split
    · exact (ih.cons e).trans List.perm_middle.symm
    · exact ih.cons e

theorem outdone_of_nodup (h : (entries.map Prod.fst).Nodup) : outdone entries = [] := by
  induction entries with
  | nil => rfl
  | cons e rest ih =>
    obtain ⟨hnot, hrest⟩ := List.nodup_cons.1 h
    rw [outdone, if_neg hnot, ih hrest]

theorem mem_lasting_iff {e : String × α} : e ∈ lasting entries ↔
    ∃ before after, entries = before ++ e :: after ∧ e.1 ∉ after.map Prod.fst := by
  induction entries with
  | nil => simp [lasting]
  | cons x rest ih =>
    constructor
    · intro h
      rw [lasting] at h
      split at h
      · obtain ⟨before, after, rfl, hlast⟩ := ih.1 h
        exact ⟨x :: before, after, rfl, hlast⟩
      · next hnot =>
        rcases List.mem_cons.1 h with rfl | h
        · exact ⟨[], rest, rfl, hnot⟩
        · obtain ⟨before, after, rfl, hlast⟩ := ih.1 h
          exact ⟨x :: before, after, rfl, hlast⟩
    · -- the entry is the first one, or it stands in the rest and has no rival there
      rintro ⟨before, after, heq, hlast⟩
      rw [lasting]
      cases before with
      | nil =>
        obtain ⟨rfl, rfl⟩ := List.cons.inj heq
        rw [if_neg hlast]
        exact List.mem_cons_self ..
      | cons y before =>
        obtain ⟨rfl, rfl⟩ := List.cons.inj heq
        have hmem := ih.2 ⟨before, after, rfl, hlast⟩
        split
        · exact hmem
        · exact List.mem_cons_of_mem _ hmem

/-- Every key is kept by `lasting`. -/
theorem mem_keys_lasting_iff : key ∈ (lasting entries).map Prod.fst ↔ key ∈ entries.map Prod.fst := by
  induction entries with
  | nil => exact Iff.rfl
  | cons e rest ih =>
    rw [lasting, List.map_cons, List.mem_cons]
    split
    · next hlater =>
      rw [ih]
      exact ⟨.inr, fun h => h.elim (fun heq => heq ▸ hlater) id⟩
    · rw [List.map_cons, List.mem_cons, ih]

theorem sorted_foldl (h : Sorted fields) (entries : List (String × α)) :
    Sorted (entries.foldl (fun acc e => insert e.1 e.2 acc) fields) := by
  induction entries generalizing fields with
  | nil => exact h
  | cons e rest ih => exact ih (sorted_insert h _ _)

theorem sorted_ofList (entries : List (String × α)) : Sorted (ofList entries) :=
  sorted_foldl .nil entries

/-- Putting `entries` among `fields` that are in order leaves of the fields those whose keys are not
among the entries, and of the entries the `lasting` ones. -/
theorem foldl_insert_perm (h : Sorted fields) (entries : List (String × α)) :
    (entries.foldl (fun acc e => insert e.1 e.2 acc) fields).Perm
      (fields.filter (fun f => f.1 ∉ entries.map Prod.fst) ++ lasting entries) := by
  induction entries generalizing fields with
  | nil => simp [lasting]
  | cons e rest ih =>
    have hold : (fields.filter fun f => f.1 ≠ e.1).filter (fun f => f.1 ∉ rest.map Prod.fst)
        = fields.filter fun f => f.1 ∉ (e :: rest).map Prod.fst := by
      rw [List.filter_filter]
      refine List.filter_congr fun f _ => ?_
      rw [Bool.eq_iff_iff]
      simp only [Bool.and_eq_true, decide_eq_true_iff, List.map_cons, List.mem_cons, not_or]
      exact and_comm
    have hput : (insert e.1 e.2 fields).Perm (e :: fields.filter fun f => f.1 ≠ e.1) := insert_perm h
    have hkept := hput.filter fun f => f.1 ∉ rest.map Prod.fst
    refine (ih (sorted_insert h _ _)).trans ((hkept.append_right _).trans ?_)
    rw [List.filter_cons, hold, lasting]
    -- the entry itself is kept just if no later one takes its place
    by_cases hlater : e.1 ∈ rest.map Prod.fst
    · rw [if_neg (by simpa using hlater), if_pos hlater]
    · rw [if_pos (by simpa using hlater), if_neg hlater]
      exact List.perm_middle.symm

theorem ofList_perm (entries : List (String × α)) : (ofList entries).Perm (lasting entries) :=
  foldl_insert_perm .nil entries

theorem foldl_insert_map (f : α → β) (entries fields : List (String × α)) :
    (entries.map (Prod.map id f)).foldl (fun acc e => insert e.1 e.2 acc) (fields.map (Prod.map id f))
      = (entries.foldl (fun acc e => insert e.1 e.2 acc) fields).map (Prod.map id f) := by
  induction entries generalizing fields with
  | nil => rfl
  | cons e rest ih =>
    rw [List.map_cons, List.foldl_cons, List.foldl_cons, ← ih, ← insert_map]
    rfl

theorem ofList_map (f : α → β) (entries : List (String × α)) :
    ofList (entries.map (Prod.map id f)) = (ofList entries).map (Prod.map id f) :=
  foldl_insert_map f entries []

end Fields

end MailFilter
