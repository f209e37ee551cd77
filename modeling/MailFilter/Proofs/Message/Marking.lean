/-
Changes to a list of headers, header by header.

A change adds a header at the end or marks one deleted, so every header keeps its place in the list, and
what is marked stays marked. With this the headers that a message has had from the beginning can be told
from those that have been added to it.

* `mutateAll_eq`: an open message has its headers changed one after the other, and nothing else;
* `deleteOccurrence_cases`: a deletion marks one header and moves the later ones of its name up;
* `foldl_change_replicate`: deleting the first header of a name as often as the name occurs in the first
  part of a list marks just the headers of the name in that part.
-/
import MailFilter.Proofs.Message.Rewriting

namespace MailFilter

open Text

namespace Header

/-! ### Changes -/

/-- Makes one change to the headers `hs` of an open message. -/
def change (hs : List Header) : HeaderMutation → List Header
  | .add key value =>
    hs ++ [{ key, value, index := (hs.filter fun h => h.answersTo key).length + 1 }]
  | .delete key index => (Message.deleteOccurrence key index hs).getD hs

end Header

namespace Message

variable {m : Message}

theorem mutate_eq_change (hopen : m.verdict = none) (mutation : HeaderMutation) :
    m.mutate mutation = .ok { m with headers := Header.change m.headers mutation } := by
  have hfin : m.isFinalized = false := by simp [isFinalized, hopen]
  cases mutation with
  | add key value =>
    simp only [mutate, addHeader, whenOpen, hfin]
    rfl
  | delete key index =>
    simp only [mutate, deleteHeader, whenOpen, hfin, Header.change]
    cases deleteOccurrence key index m.headers <;> rfl

/-- An open message has its headers changed one after the other by `mutateAll`, and nothing else. -/
theorem mutateAll_eq (hopen : m.verdict = none) (mutations : List HeaderMutation) :
    m.mutateAll mutations = .ok { m with headers := mutations.foldl Header.change m.headers } := by
  induction mutations generalizing m with
  | nil => rfl
  | cons mutation rest ih =>
    rw [mutateAll, List.foldlM_cons, mutate_eq_change hopen]
    exact ih (m := { m with headers := Header.change m.headers mutation }) hopen

end Message

namespace Header

variable {hs : List Header}

/-- A `change` keeps the places right, and acts on the lines as `Lines.apply` does on plain ones. -/
theorem ranked_change (hr : Ranked hs) (mutation : HeaderMutation) :
    Ranked (change hs mutation) ∧ lines (change hs mutation) = (lines hs).apply mutation := by
  let m : Message :=
    { Message.new (Uuid.issued 0) (Uuid.issued 0) ⟨"", ""⟩ { nanos := 0 } with headers := hs }
  obtain ⟨headers, hm, h⟩ := Message.mutate_eq (m := m) rfl mutation
  rw [Message.mutate_eq_change rfl] at hm
  have hheaders : change hs mutation = headers := congrArg Message.headers (Except.ok.inj hm)
  exact hheaders ▸ h hr

theorem ranked_foldl_change (hr : Ranked hs) (mutations : List HeaderMutation) :
    Ranked (mutations.foldl change hs) ∧
      lines (mutations.foldl change hs) = (lines hs).applyAll mutations := by
  induction mutations generalizing hs with
  | nil => exact ⟨hr, rfl⟩
  | cons mutation rest ih =>
    obtain ⟨hr₁, hl₁⟩ := ranked_change hr mutation
    obtain ⟨hr₂, hl₂⟩ := ih hr₁
    exact ⟨hr₂, by rw [List.foldl_cons, hl₂, hl₁]; rfl⟩

/-! ### One deletion -/

/-- The headers that do not have the name are passed by when `deleteOccurrence` looks for it. -/
theorem deleteOccurrence_append {o a : List Header} {key : String} {i : Nat}
    (ho : ∀ h ∈ o, h.answersTo key = false) :
    Message.deleteOccurrence key i (o ++ a) = (Message.deleteOccurrence key i a).map (o ++ ·) := by
  induction o with
  | nil => exact (Option.map_id' ..).symm
  | cons h rest ih =>
    rw [List.cons_append, Message.deleteOccurrence,
      if_neg (by simp [ho h (List.mem_cons_self ..)]),
      ih fun g hg => ho g (List.mem_cons_of_mem _ hg), Option.map_map]
    rfl

/-- What `deleteOccurrence` does: it marks one header and moves the later ones of its name up, or there
is nothing to be deleted. -/
theorem deleteOccurrence_cases (key : String) (i : Nat) (hs : List Header) :
    Message.deleteOccurrence key i hs = none ∨
    ∃ pre h post, hs = pre ++ h :: post ∧ h.answersTo key = true ∧ h.index = i ∧
      Message.deleteOccurrence key i hs = some (pre ++ { h with deleted := true } :: moveUp key post) := by
  induction hs with
  | nil => exact .inl rfl
  | cons h rest ih =>
    rw [Message.deleteOccurrence]
    by_cases hit : (h.answersTo key && h.index = i) = true
    · obtain ⟨ha, hi⟩ : h.answersTo key = true ∧ h.index = i := by simpa using hit
      rw [if_pos hit]
      exact .inr ⟨[], h, rest, rfl, ha, hi, rfl⟩
    · rw [if_neg hit]
      rcases ih with hnone | ⟨pre, g, post, rfl, ha, hi, hsome⟩
      · exact .inl (by rw [hnone]; rfl)
      · exact .inr ⟨h :: pre, g, post, rfl, ha, hi, by rw [hsome]; rfl⟩

/-- The first header of a name stands at the first place. -/
theorem change_delete_first {pre post : List Header} {h : Header} {key : String}
    (hr : Ranked (pre ++ h :: post)) (hpre : ∀ g ∈ pre, g.answersTo key = false)
    (ha : h.answersTo key = true) :
    h.index = 1 ∧ change (pre ++ h :: post) (.delete key 1)
      = pre ++ { h with deleted := true } :: moveUp key post := by
  obtain ⟨hd, hk⟩ : h.deleted = false ∧ sameName h.key key = true := by simpa [answersTo] using ha
  have hindex : h.index = 1 := by
    have hnone : (lines pre).values h.key = [] := by
      rw [Lines.values_congr hk, values_lines, List.filter_eq_nil_iff.2 fun g hg => by simp [hpre g hg]]
      rfl
    rw [index_eq_of_rankedAfter hd hr, hnone]
    rfl
  refine ⟨hindex, ?_⟩
  rw [change, deleteOccurrence_append hpre, Message.deleteOccurrence, if_pos (by simp [ha, hindex])]
  rfl

/-- A header without its place. -/
def unplaced (h : Header) : String × String × Bool :=
  (h.key, h.value, h.deleted)

theorem unplaced_moveUp (key : String) (hs : List Header) :
    (moveUp key hs).map unplaced = hs.map unplaced := by
  rw [moveUp, List.map_map]
  refine List.map_congr_left fun h _ => ?_
  show unplaced (if h.answersTo key then _ else h) = unplaced h
  split <;> rfl

/-- What is marked stays as it is under every `change`. -/
theorem getElem?_change {p : Nat} {h : Header} (hp : hs[p]? = some h) (hd : h.deleted = true)
    (mutation : HeaderMutation) : (change hs mutation)[p]? = some h := by
  cases mutation with
  | add k v =>
    obtain ⟨hlt, -⟩ := List.getElem?_eq_some_iff.1 hp
    rw [change, List.getElem?_append_left hlt, hp]
  | delete k i =>
    rw [change]
    rcases deleteOccurrence_cases k i hs with hnone | ⟨pre, g, post, rfl, ha, -, hsome⟩
    · rw [hnone]
      exact hp
    · rw [hsome, Option.getD_some]
      rcases Nat.lt_trichotomy p pre.length with hlt | rfl | hgt
      · rw [List.getElem?_append_left hlt] at hp ⊢
        exact hp
      · -- the header that is deleted has not been marked before
        rw [List.getElem?_append_right (Nat.le_refl _), Nat.sub_self, List.getElem?_cons_zero] at hp
        rw [Option.some.inj hp] at ha
        simp [answersTo, hd] at ha
      · rw [List.getElem?_append_right (Nat.le_of_lt hgt)] at hp ⊢
        obtain ⟨j, hj⟩ : ∃ j, p - pre.length = j + 1 := ⟨p - pre.length - 1, by omega⟩
        rw [hj, List.getElem?_cons_succ] at hp ⊢
        rw [moveUp, List.getElem?_map, hp, Option.map_some, if_neg (by simp [answersTo, hd])]

theorem getElem?_foldl_change {p : Nat} {h : Header} (hp : hs[p]? = some h) (hd : h.deleted = true)
    (mutations : List HeaderMutation) : (mutations.foldl change hs)[p]? = some h := by
  induction mutations generalizing hs with
  | nil => exact hp
  | cons mutation rest ih => exact ih (getElem?_change hp hd mutation)

/-! ### Hits -/

/-- A deletion marks one of the first `n` headers. -/
def Hits (n : Nat) (hs : List Header) : HeaderMutation → Prop
  | .add _ _ => True
  | .delete key i => ∃ p h, p < n ∧ hs[p]? = some h ∧ h.answersTo key = true ∧ h.index = i ∧
      (change hs (.delete key i))[p]? = some { h with deleted := true }

/-- Every deletion marks one of the first `n` headers, as they are when it comes to it. -/
def AllHit (n : Nat) : List Header → List HeaderMutation → Prop
  | _, [] => True
  | hs, mutation :: rest => Hits n hs mutation ∧ AllHit n (change hs mutation) rest

theorem allHit_append {n : Nat} {mutations mutations' : List HeaderMutation} :
    AllHit n hs (mutations ++ mutations')
      ↔ AllHit n hs mutations ∧ AllHit n (mutations.foldl change hs) mutations' := by
  induction mutations generalizing hs with
  | nil => exact (true_and _).symm ▸ Iff.rfl
  | cons mutation rest ih => rw [List.cons_append, AllHit, AllHit, ih, and_assoc, List.foldl_cons]

theorem allHit_iff {n : Nat} {mutations : List HeaderMutation} :
    AllHit n hs mutations ↔ ∀ before mutation after, mutations = before ++ mutation :: after →
      Hits n (before.foldl change hs) mutation := by
  constructor
  · rintro h before mutation after rfl
    exact (allHit_append.1 h).2.1
  · intro h
    induction mutations generalizing hs with
    | nil => trivial
    | cons mutation rest ih =>
      exact ⟨h [] mutation rest rfl, ih fun before x after heq =>
        h (mutation :: before) x after (by rw [heq]; rfl)⟩

/-! ### Additions and deletions in a row -/

/-- Headers that a `change` adds stand at the end, and are not deleted. -/
theorem foldl_change_add (n : Nat) (hs : List Header) (key : String) (values : List String) :
    AllHit n hs (values.map (.add key)) ∧
    ∃ new, (values.map (HeaderMutation.add key)).foldl change hs = hs ++ new ∧
      new.map unplaced = values.map fun v => (key, v, false) := by
  induction values generalizing hs with
  | nil => exact ⟨trivial, [], (List.append_nil _).symm, rfl⟩
  | cons v rest ih =>
    obtain ⟨hhit, new, hnew, hunplaced⟩ := ih (change hs (.add key v))
    refine ⟨⟨trivial, hhit⟩,
      { key, value := v, index := (hs.filter fun h => h.answersTo key).length + 1 } :: new, ?_, ?_⟩
    · rw [List.map_cons, List.foldl_cons, hnew, change, List.append_assoc]
      rfl
    · rw [List.map_cons, hunplaced]
      rfl

/-- Marks the header `h` deleted if it has the name `key`; its place is then the first one. -/
def strike (key : String) (h : Header) : Header :=
  if h.answersTo key then { h with deleted := true, index := 1 } else h

theorem strike_of_not {key : String} {h : Header} (hh : h.answersTo key = false) :
    strike key h = h := by
  rw [strike, if_neg (by simp [hh])]

theorem map_strike_of_not {key : String} {o : List Header}
    (ho : ∀ h ∈ o, h.answersTo key = false) : o.map (strike key) = o := by
  rw [List.map_congr_left fun h hh => strike_of_not (ho h hh), List.map_id']

theorem map_strike_moveUp (key : String) (hs : List Header) :
    (moveUp key hs).map (strike key) = hs.map (strike key) := by
  rw [moveUp, List.map_map]
  refine List.map_congr_left fun h _ => ?_
  show strike key (if h.answersTo key then { h with index := h.index - 1 } else h) = strike key h
  split
  · next ha =>
    have ha' : ({ h with index := h.index - 1 } : Header).answersTo key = true := ha
    rw [strike, strike, if_pos ha, if_pos ha']
  · rfl

theorem length_filter_moveUp (key : String) (hs : List Header) :
    ((moveUp key hs).filter fun h => h.answersTo key).length
      = (hs.filter fun h => h.answersTo key).length := by
  rw [moveUp, List.filter_map, List.length_map]
  refine congrArg List.length (List.filter_congr fun h _ => ?_)
  show (if h.answersTo key then { h with index := h.index - 1 } else h).answersTo key = _
  split <;> rfl

/-- As long as the name occurs in the first part of a list, the first place of it is there, and a
deletion is a `strike` in that part. -/
theorem change_delete_part {o a : List Header} {key : String} {n : Nat} (hr : Ranked (o ++ a))
    (hn : (o.filter fun h => h.answersTo key).length = n + 1) :
    Hits o.length (o ++ a) (.delete key 1) ∧
    ∃ o' a', change (o ++ a) (.delete key 1) = o' ++ a' ∧ o'.length = o.length ∧
      (o'.filter fun h => h.answersTo key).length = n ∧ o'.map (strike key) = o.map (strike key) ∧
      a'.map unplaced = a.map unplaced := by
  obtain ⟨h, hfind⟩ : ∃ h, o.find? (fun h => h.answersTo key) = some h := by
    rw [← Option.isSome_iff_exists, List.find?_isSome]
    obtain ⟨h, hh⟩ := List.exists_mem_of_length_pos (l := o.filter fun h => h.answersTo key) (by omega)
    exact ⟨h, List.mem_filter.1 hh⟩
  obtain ⟨ha, pre, post, rfl, hbefore⟩ := List.find?_eq_some_iff_append.1 hfind
  have hpre : ∀ g ∈ pre, g.answersTo key = false := fun g hg => by simpa using hbefore g hg
  have hnone : (pre.filter fun g => g.answersTo key) = [] :=
    List.filter_eq_nil_iff.2 fun g hg => Bool.eq_false_iff.1 (hpre g hg)
  rw [List.append_assoc, List.cons_append] at hr
  obtain ⟨hindex, hmarks⟩ := change_delete_first hr hpre ha
  have hmarked : ({ h with deleted := true } : Header).answersTo key = false := rfl
  have hchange : change (pre ++ h :: post ++ a) (.delete key 1)
      = (pre ++ { h with deleted := true } :: moveUp key post) ++ moveUp key a := by
    rw [List.append_assoc, List.cons_append, hmarks]
    simp [moveUp]
  refine ⟨⟨pre.length, h, by simp, by simp, ha, hindex, by rw [hchange]; simp⟩, _, _, hchange,
    by simp [moveUp], ?_, ?_, unplaced_moveUp key a⟩
  · rw [List.filter_append, hnone, List.filter_cons, if_pos ha] at hn
    rw [List.filter_append, hnone, List.filter_cons, if_neg (by simp [hmarked])]
    simpa [length_filter_moveUp] using hn
  · have hstrike : strike key h = { h with deleted := true } := by
      rw [strike, if_pos ha, ← hindex]
    rw [List.map_append, List.map_append, List.map_cons, List.map_cons, map_strike_moveUp,
      strike_of_not hmarked, hstrike]

/-- Deleting the first header of a name as often as the name occurs in the first part of a list marks
just the headers of the name in that part, as `strike` does. -/
theorem foldl_change_replicate {o a : List Header} {key : String} {n : Nat} (hr : Ranked (o ++ a))
    (hn : (o.filter fun h => h.answersTo key).length = n) :
    AllHit o.length (o ++ a) (List.replicate n (.delete key 1)) ∧
    ∃ a', (List.replicate n (HeaderMutation.delete key 1)).foldl change (o ++ a)
        = o.map (strike key) ++ a' ∧ a'.map unplaced = a.map unplaced := by
  induction n generalizing o a with
  | zero =>
    have hnone : ∀ h ∈ o, h.answersTo key = false := by
      simpa using List.length_eq_zero_iff.1 hn
    exact ⟨trivial, a, by rw [map_strike_of_not hnone]; rfl, rfl⟩
  | succ n ih =>
    obtain ⟨hhit, o', a', hchange, hlength, hn', hstrike, hunplaced⟩ := change_delete_part hr hn
    have hr' := (ranked_change hr (.delete key 1)).1
    rw [hchange] at hr'
    obtain ⟨hhits, a'', hfold, hunplaced'⟩ := ih hr' hn'
    refine ⟨⟨hhit, ?_⟩, a'', ?_, hunplaced'.trans hunplaced⟩
    · rw [hchange, ← hlength]
      exact hhits
    · rw [List.replicate_succ, List.foldl_cons, hchange, hfold, hstrike]

end Header

end MailFilter
