/-
The table of sessions as a map from identifiers.

Sessions that can no longer be found stay in the table for the callbacks that hold them, so the map is
`SessionTable.held?`. The invariant `Distinct` says that an identifier belongs to one session only;
with it a session that can be found is the one that is held.

* `held?_update`, `held?_insert`, `held?_of_map`: what each operation does to the map;
* `distinct_insert`: the invariant stays where a session comes in;
* `only_update`, `only_insert`, `only_remove`: each operation works on what the table has of one
  session, and what it has of the others stays;
* `find?_removeWhere_iff`, `gone_removeWhere`: the sessions that can no longer be found are those that
  have been removed.
-/
import MailFilter.Proofs.Data.Fields
import MailFilter.Session.Table

namespace MailFilter.SessionTable

/-- All sessions, whether or not `find?` can find them. -/
def all (t : SessionTable) : List Session :=
  t.entries.map (·.session)

/-- The identifiers of `all` sessions. -/
def ids (t : SessionTable) : List Uuid :=
  t.all.map (·.id)

/-- No two sessions have the same identifier, so `held?` is a map. -/
def Distinct (t : SessionTable) : Prop :=
  t.ids.Nodup

/-! ### Looking up -/

theorem held?_eq (t : SessionTable) (id : Uuid) : t.held? id = t.all.find? fun s => s.id = id := rfl

theorem id_of_held? {t : SessionTable} {id : Uuid} {s : Session} (h : t.held? id = some s) :
    s.id = id := by
  simpa using List.find?_some h

theorem mem_all_of_held? {t : SessionTable} {id : Uuid} {s : Session} (h : t.held? id = some s) :
    s ∈ t.all :=
  List.mem_of_find?_eq_some h

theorem mem_all_of_mem_live {t : SessionTable} {s : Session} (h : s ∈ t.live) : s ∈ t.all := by
  obtain ⟨e, he, rfl⟩ := List.mem_map.1 h
  exact List.mem_map.2 ⟨e, (List.mem_filter.1 he).1, rfl⟩

theorem mem_ids_of_held? {t : SessionTable} {id : Uuid} {s : Session} (h : t.held? id = some s) :
    id ∈ t.ids :=
  List.mem_map.2 ⟨s, mem_all_of_held? h, id_of_held? h⟩

theorem held?_eq_none {t : SessionTable} {id : Uuid} : t.held? id = none ↔ id ∉ t.ids := by
  simp [held?_eq, ids]

theorem exists_held?_of_mem {t : SessionTable} {id : Uuid} (h : id ∈ t.ids) :
    ∃ s, t.held? id = some s := by
  rw [← Option.isSome_iff_exists, ← Option.ne_none_iff_isSome]
  exact fun hnone => held?_eq_none.1 hnone h

/-- A session is the one that `held?` looks its identifier up to. -/
theorem held?_of_mem {t : SessionTable} (hd : t.Distinct) {s : Session} (h : s ∈ t.all) :
    t.held? s.id = some s :=
  find?_of_nodup hd h fun _ => decide_eq_true_iff

/-- A session that `find?` finds is the one that is held. -/
theorem held?_of_find? {t : SessionTable} (hd : t.Distinct) {id : Uuid} {s : Session}
    (h : t.find? id = some s) : t.held? id = some s := by
  have hid : s.id = id := by simpa using List.find?_some h
  rw [← hid]
  exact held?_of_mem hd (mem_all_of_mem_live (List.mem_of_find?_eq_some h))

/-! ### Changing a session -/

theorem all_update (t : SessionTable) (s : Session) :
    (t.update s).all = t.all.map fun x => if x.id = s.id then s else x := by
  rw [all, all, update, List.map_map, List.map_map]
  refine List.map_congr_left fun e _ => ?_
  by_cases h : e.session.id = s.id <;> simp [h]

theorem ids_update (t : SessionTable) (s : Session) : (t.update s).ids = t.ids := by
  rw [ids, ids, all_update, List.map_map]
  refine List.map_congr_left fun x _ => ?_
  by_cases h : x.id = s.id <;> simp [h]

/-- What is looked up in a list after the session `s` has been put into its place. -/
theorem find?_map_replace (l : List Session) (s : Session) (id : Uuid) :
    (l.map fun x => if x.id = s.id then s else x).find? (fun x => x.id = id)
      = if s.id = id then (l.find? fun x => x.id = id).map fun _ => s
        else l.find? fun x => x.id = id := by
  induction l with
  | nil => simp
  | cons x rest ih =>
    rw [List.map_cons, List.find?_cons, List.find?_cons]
    by_cases hx : x.id = s.id
    · by_cases hid : s.id = id
      · simp [hx, hid]
      · simpa [hx, hid] using ih
    · -- the session looked for is not the one that is changed, or it comes later
      rw [if_neg hx]
      by_cases hxid : x.id = id
      · have hid : s.id ≠ id := fun h => hx (hxid.trans h.symm)
        simp [hxid, hid]
      · simpa [hxid] using ih

/-- Changing the session `s` changes nothing but what its identifier is looked up to. -/
theorem held?_update (t : SessionTable) (s : Session) (id : Uuid) :
    (t.update s).held? id = if s.id = id then (t.held? id).map fun _ => s else t.held? id := by
  rw [held?_eq, held?_eq, all_update, find?_map_replace]

theorem live_update (t : SessionTable) (s : Session) :
    (t.update s).live = t.live.map fun x => if x.id = s.id then s else x := by
  obtain ⟨entries⟩ := t
  simp only [live, update]
  induction entries with
  | nil => rfl
  | cons e rest ih =>
    obtain ⟨x, isLive⟩ := e
    by_cases hx : x.id = s.id <;> cases isLive <;> simpa [hx] using ih

/-- A session that `find?` finds can still be found after an `update`, and so can the others. -/
theorem find?_update (t : SessionTable) (s : Session) (id : Uuid) :
    (t.update s).find? id = if s.id = id then (t.find? id).map fun _ => s else t.find? id := by
  rw [find?, find?, live_update, find?_map_replace]

/-- Putting a session into its own place with `update` changes nothing. -/
theorem update_eq_self {t : SessionTable} (hd : t.Distinct) {id : Uuid} {s : Session}
    (h : t.held? id = some s) : t.update s = t := by
  have hentries : t.entries.map (fun e => if e.session.id = s.id then { e with session := s } else e)
      = t.entries.map fun e => e := by
    refine List.map_congr_left fun e he => ?_
    by_cases hid : e.session.id = s.id
    · have hheld := held?_of_mem hd (List.mem_map.2 ⟨e, he, rfl⟩)
      rw [hid, id_of_held? h, h] at hheld
      rw [if_pos hid, Option.some.inj hheld]
    · rw [if_neg hid]
  rw [update, hentries, List.map_id']

/-- The table `t'` holds the sessions of `t`, but for `s` in the place of the one with its identifier. -/
def Replaces (t t' : SessionTable) (s : Session) : Prop :=
  t'.all = (t.update s).all

theorem replaces_of_all_eq {t t' : SessionTable} (hd : t.Distinct) {id : Uuid} {s : Session}
    (h : t.held? id = some s) (hall : t'.all = t.all) : t.Replaces t' s := by
  rw [Replaces, hall, update_eq_self hd h]

theorem Replaces.ids {t t' : SessionTable} {s : Session} (h : t.Replaces t' s) :
    t'.ids = t.ids := by
  rw [SessionTable.ids, h, ← SessionTable.ids, ids_update]

theorem Replaces.held? {t t' : SessionTable} {s s₀ : Session} (h : t.Replaces t' s)
    (hs : t.held? s.id = some s₀) (id : Uuid) :
    t'.held? id = if s.id = id then some s else t.held? id := by
  rw [held?_eq, h, ← held?_eq, held?_update]
  by_cases hid : s.id = id
  · rw [if_pos hid, if_pos hid, ← hid, hs]
    rfl
  · rw [if_neg hid, if_neg hid]

theorem ids_of_map {t t' : SessionTable} {g : Session → Session} (hg : ∀ s, (g s).id = s.id)
    (h : t'.all = t.all.map g) : t'.ids = t.ids := by
  rw [ids, ids, h, List.map_map]
  exact List.map_congr_left fun s _ => hg s

/-- Changing every session by `g` in its place changes what `held?` looks up. -/
theorem held?_of_map {t t' : SessionTable} {g : Session → Session} (hg : ∀ s, (g s).id = s.id)
    (h : t'.all = t.all.map g) (id : Uuid) : t'.held? id = (t.held? id).map g := by
  have hsame : (fun s : Session => decide (s.id = id)) ∘ g = fun s => decide (s.id = id) := by
    funext s
    show decide ((g s).id = id) = decide (s.id = id)
    rw [hg]
  rw [held?_eq, held?_eq, h, List.find?_map, hsame]

/-! ### Adding and removing -/

theorem all_insert (t : SessionTable) (s : Session) : (t.insert s).all = t.all ++ [s] := by
  simp [all, insert]

theorem ids_insert (t : SessionTable) (s : Session) : (t.insert s).ids = t.ids ++ [s.id] := by
  simp [ids, all_insert]

theorem distinct_insert {t : SessionTable} (hd : t.Distinct) {s : Session} (h : s.id ∉ t.ids) :
    (t.insert s).Distinct := by
  rw [Distinct, ids_insert, List.nodup_append]
  refine ⟨hd, List.pairwise_singleton .., fun a ha b hb heq => h ?_⟩
  rwa [← List.mem_singleton.1 hb, ← heq]

theorem held?_insert {t : SessionTable} {s : Session} (h : s.id ∉ t.ids) (id : Uuid) :
    (t.insert s).held? id = if s.id = id then some s else t.held? id := by
  rw [held?_eq, all_insert, List.find?_append, ← held?_eq]
  by_cases hid : s.id = id
  · rw [if_pos hid, held?_eq_none.2 (hid ▸ h)]
    simp [hid]
  · simp [hid]

theorem all_removeWhere (t : SessionTable) (p : Session → Bool) :
    (t.removeWhere p).2.all = t.all := by
  simp only [all, removeWhere, List.map_map]
  refine List.map_congr_left fun e _ => ?_
  by_cases h : p e.session <;> simp [h]

/-! ### One session of many -/

/-- What a table has of the session `id`. -/
def only (t : SessionTable) (id : Uuid) : SessionTable :=
  ⟨t.entries.filter fun e => e.session.id = id⟩

theorem live_only (t : SessionTable) (id : Uuid) :
    (t.only id).live = t.live.filter fun s => s.id = id := by
  rw [live, live, only, List.filter_map, List.filter_filter, List.filter_filter]
  exact congrArg (List.map _) (List.filter_congr fun e _ => Bool.and_comm ..)

theorem all_only (t : SessionTable) (id : Uuid) :
    (t.only id).all = t.all.filter fun s => s.id = id := by
  rw [all, all, only, List.filter_map]
  rfl

theorem find?_only (t : SessionTable) (id : Uuid) : (t.only id).find? id = t.find? id := by
  simp [find?, live_only, List.find?_filter]

theorem held?_only (t : SessionTable) (id : Uuid) : (t.only id).held? id = t.held? id := by
  simp [held?_eq, all_only, List.find?_filter]

theorem only_update (t : SessionTable) (s : Session) (id : Uuid) :
    (t.update s).only id = (t.only id).update s := by
  rw [only, update, List.filter_map]
  refine congrArg (fun es => (⟨List.map _ es⟩ : SessionTable)) (List.filter_congr fun e _ => ?_)
  by_cases h : e.session.id = s.id <;> simp [h]

/-- An `update` of one session leaves the others alone. -/
theorem only_update_other {s : Session} {id : Uuid} (h : s.id ≠ id) (t : SessionTable) :
    (t.update s).only id = t.only id := by
  have hsame : ∀ e ∈ (t.only id).entries,
      (if e.session.id = s.id then { e with session := s } else e) = e := by
    intro e he
    have hid : e.session.id = id := by simpa using (List.mem_filter.1 he).2
    rw [if_neg (hid ▸ h.symm)]
  rw [only_update, update, List.map_congr_left hsame, List.map_id']

theorem only_insert (t : SessionTable) {s : Session} {id : Uuid} (h : s.id = id) :
    (t.insert s).only id = (t.only id).insert s := by
  simp [only, insert, List.filter_append, h]

theorem only_insert_other (t : SessionTable) {s : Session} {id : Uuid} (h : s.id ≠ id) :
    (t.insert s).only id = t.only id := by
  simp [only, insert, List.filter_append, h]

theorem only_removeWhere (t : SessionTable) (p : Session → Bool) (id : Uuid) :
    (t.removeWhere p).2.only id = ((t.only id).removeWhere p).2 := by
  have hkeeps : ∀ e : Entry, (if p e.session then { e with isLive := false } else e).session
      = e.session := by
    intro e
    split <;> rfl
  rw [only, removeWhere, List.filter_map]
  refine congrArg (fun es => (⟨List.map _ es⟩ : SessionTable)) (List.filter_congr fun e _ => ?_)
  simp only [Function.comp_apply, hkeeps]

/-- A session is removed from the table as it is from the table that has it `only`. -/
theorem only_remove (t : SessionTable) (id : Uuid) :
    (t.remove id).1 = ((t.only id).remove id).1 ∧
      (t.remove id).2.only id = ((t.only id).remove id).2 := by
  refine ⟨?_, only_removeWhere ..⟩
  show t.live.filter _ = (t.only id).live.filter _
  rw [live_only, List.filter_filter]
  simp only [Bool.and_self]

/-- A removal leaves the session `id` alone that is not among those removed. -/
theorem only_removeWhere_other {t : SessionTable} {p : Session → Bool} {id : Uuid}
    (h : ∀ s ∈ (t.removeWhere p).1, s.id ≠ id) : (t.removeWhere p).2.only id = t.only id := by
  have hsame : ∀ e ∈ (t.only id).entries,
      (if p e.session then { e with isLive := false } else e) = e := by
    intro e he
    obtain ⟨hmem, hid⟩ := List.mem_filter.1 he
    split
    · next hp =>
      -- a session that passes the test could not be found before either
      rcases e with ⟨s, _ | _⟩
      · rfl
      · have hlive : s ∈ t.live := List.mem_map.2 ⟨_, List.mem_filter.2 ⟨hmem, rfl⟩, rfl⟩
        exact absurd (by simpa using hid) (h s (List.mem_filter.2 ⟨hlive, hp⟩))
    · rfl
  rw [only_removeWhere, removeWhere, List.map_congr_left hsame, List.map_id']

/-! ### Sessions that can no longer be found -/

/-- The identifiers of the sessions that can no longer be found: they are held, and not `live`. -/
def gone (t : SessionTable) : List Uuid :=
  (t.entries.filter fun e => !e.isLive).map (·.session.id)

theorem gone_sublist_ids (t : SessionTable) : t.gone.Sublist t.ids := by
  rw [ids, all, List.map_map]
  exact List.filter_sublist.map _

theorem gone_nodup {t : SessionTable} (hd : t.Distinct) : t.gone.Nodup :=
  hd.sublist t.gone_sublist_ids

/-- A session is `live`, or it is `gone`. -/
theorem ids_perm (t : SessionTable) : t.ids.Perm (t.live.map (·.id) ++ t.gone) := by
  have hsplit := (List.filter_append_perm (·.isLive) t.entries).map fun e : Entry => e.session.id
  rw [List.map_append] at hsplit
  rw [ids, all, List.map_map, live, List.map_map]
  exact hsplit.symm

theorem find?_eq_none {t : SessionTable} {id : Uuid} :
    t.find? id = none ↔ id ∉ t.live.map (·.id) := by
  simp [find?]

theorem find?_of_mem_live {t : SessionTable} (hd : t.Distinct) {s : Session} (h : s ∈ t.live) :
    t.find? s.id = some s := by
  cases hf : t.find? s.id with
  | none => exact absurd (List.mem_map.2 ⟨s, h, rfl⟩) (find?_eq_none.1 hf)
  | some s₀ =>
    have hheld := held?_of_find? hd hf
    rw [held?_of_mem hd (mem_all_of_mem_live h)] at hheld
    exact hheld.symm

theorem find?_eq_some_iff {t : SessionTable} (hd : t.Distinct) {id : Uuid} {s : Session} :
    t.find? id = some s ↔ s ∈ t.live ∧ s.id = id := by
  constructor
  · exact fun h => ⟨List.mem_of_find?_eq_some h, by simpa using List.find?_some h⟩
  · rintro ⟨h, rfl⟩
    exact find?_of_mem_live hd h

theorem mem_gone_iff {t : SessionTable} (hd : t.Distinct) {id : Uuid} :
    id ∈ t.gone ↔ id ∈ t.ids ∧ t.find? id = none := by
  have hnodup : (t.live.map (·.id) ++ t.gone).Nodup := t.ids_perm.nodup_iff.1 hd
  rw [t.ids_perm.mem_iff, List.mem_append, find?_eq_none]
  constructor
  · intro hgone
    exact ⟨.inr hgone, fun hlive => (List.nodup_append.1 hnodup).2.2 id hlive id hgone rfl⟩
  · rintro ⟨hlive | hgone, hnone⟩
    · exact absurd hlive hnone
    · exact hgone

theorem gone_update (t : SessionTable) (s : Session) : (t.update s).gone = t.gone := by
  obtain ⟨entries⟩ := t
  simp only [gone, update]
  induction entries with
  | nil => rfl
  | cons e rest ih =>
    obtain ⟨x, isLive⟩ := e
    by_cases hx : x.id = s.id <;> cases isLive <;> simpa [hx] using ih

theorem gone_insert (t : SessionTable) (s : Session) : (t.insert s).gone = t.gone := by
  simp [gone, insert, List.filter_append]

/-- The sessions that `removeWhere` yields, and no others, are `gone` after it. -/
theorem gone_removeWhere (t : SessionTable) (p : Session → Bool) :
    (t.removeWhere p).2.gone.Perm (t.gone ++ (t.removeWhere p).1.map (·.id)) := by
  obtain ⟨entries⟩ := t
  simp only [gone, removeWhere, live]
  induction entries with
  | nil => exact .refl _
  | cons e rest ih =>
    obtain ⟨s, isLive⟩ := e
    cases isLive with
    | false =>
      cases hp : p s <;> simpa [hp] using ih
    | true =>
      cases hp : p s with
      | false => simpa [hp] using ih
      | true =>
        have hmiddle := (ih.cons s.id).trans List.perm_middle.symm
        simpa [hp] using hmiddle

theorem live_removeWhere (t : SessionTable) (p : Session → Bool) :
    (t.removeWhere p).2.live = t.live.filter fun s => !p s := by
  obtain ⟨entries⟩ := t
  simp only [live, removeWhere]
  induction entries with
  | nil => rfl
  | cons e rest ih =>
    obtain ⟨s, isLive⟩ := e
    cases isLive <;> cases hp : p s <;> simpa [hp] using ih

theorem ids_removeWhere (t : SessionTable) (p : Session → Bool) :
    (t.removeWhere p).2.ids = t.ids := by
  rw [ids, all_removeWhere, ids]

theorem distinct_removeWhere {t : SessionTable} (hd : t.Distinct) (p : Session → Bool) :
    (t.removeWhere p).2.Distinct := by
  rwa [Distinct, ids_removeWhere]

/-- The sessions that `find?` finds after a removal are those that it has found before and that have not
passed `p`. -/
theorem find?_removeWhere_iff {t : SessionTable} (hd : t.Distinct) (p : Session → Bool) {id : Uuid}
    {s : Session} :
    (t.removeWhere p).2.find? id = some s ↔ t.find? id = some s ∧ p s = false := by
  rw [find?_eq_some_iff (distinct_removeWhere hd p), find?_eq_some_iff hd, live_removeWhere]
  simp [and_right_comm]

/-- What `removeWhere` yields are the sessions that could be found before it and cannot be after it. -/
theorem mem_removeWhere_iff {t : SessionTable} (hd : t.Distinct) (p : Session → Bool) {id : Uuid} :
    id ∈ (t.removeWhere p).1.map (·.id) ↔
      t.find? id ≠ none ∧ (t.removeWhere p).2.find? id = none := by
  have hgone := (gone_removeWhere t p).mem_iff (a := id)
  rw [List.mem_append, mem_gone_iff (distinct_removeWhere hd p), mem_gone_iff hd,
    ids_removeWhere] at hgone
  constructor
  · intro hmem
    have hlive : id ∈ t.live.map (·.id) := (List.filter_sublist.map _).subset hmem
    exact ⟨fun h => find?_eq_none.1 h hlive, (hgone.2 (.inr hmem)).2⟩
  · rintro ⟨hfound, hnone⟩
    have hlive : id ∈ t.live.map (·.id) := Decidable.not_not.1 fun h => hfound (find?_eq_none.2 h)
    have hid : id ∈ t.ids := t.ids_perm.mem_iff.2 (List.mem_append_left _ hlive)
    exact (hgone.1 ⟨hid, hnone⟩).resolve_left fun h => hfound h.2

end MailFilter.SessionTable
