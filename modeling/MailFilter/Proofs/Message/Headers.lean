/-
The headers of a message as a plain list of lines.

Deleted headers stay in the list of a message, and each header carries its place among those of its
name. The invariant `Ranked` says that the place of every header that is not deleted is right; with it
a message acts on its headers as `Lines` does, which knows of no places and keeps nothing that has been
deleted.

* `addHeader_eq`, `deleteHeader_eq`, `ensureMessageId_eq`: what one operation does to the lines, and
  that the places stay right;
* `headers_refine_lines`: a message after any row of operations on its headers.
-/
import MailFilter.Proofs.Message.Lines

namespace MailFilter

open Text

/-- The `Lines` of the headers that are not deleted. -/
def Header.lines (hs : List Header) : Lines :=
  (hs.filter fun h => !h.deleted).map fun h => (h.key, h.value)

/-- The header `Lines` of a message. -/
def Message.lines (m : Message) : Lines :=
  Header.lines m.headers

namespace Header

@[simp] theorem lines_nil : lines [] = [] := rfl

theorem lines_cons (h : Header) (hs : List Header) :
    lines (h :: hs) = if h.deleted then lines hs else (h.key, h.value) :: lines hs := by
  by_cases hd : h.deleted <;> simp [lines, hd]

@[simp] theorem lines_append (hs hs' : List Header) :
    lines (hs ++ hs') = lines hs ++ lines hs' := by
  simp [lines]

/-- The headers that have a name, by `answersTo`, hold the `values` of the name. -/
theorem values_lines (key : String) (hs : List Header) :
    (lines hs).values key = (hs.filter fun h => h.answersTo key).map (·.value) := by
  induction hs with
  | nil => rfl
  | cons h hs ih =>
    rw [lines_cons, List.filter_cons, answersTo]
    by_cases hd : h.deleted
    · simp [hd, ih]
    · by_cases hk : sameName h.key key <;> simp [hd, hk, Lines.values_cons, ih]

/-! ### Places -/

/-- How many headers of each name, written small, stand before: one more of the name
`key` than `before`. -/
def counted (before : String → Nat) (key : String) : String → Nat :=
  fun name => if name = smallName key then before name + 1 else before name

/-- Every header that is not deleted carries its place, after the headers that `before` counts. -/
def RankedAfter (before : String → Nat) : List Header → Prop
  | [] => True
  | h :: hs =>
    if h.deleted then RankedAfter before hs
    else h.index = before (smallName h.key) + 1 ∧ RankedAfter (counted before h.key) hs

/-- Every header that is not deleted carries its place among those of its name. -/
def Ranked : List Header → Prop :=
  RankedAfter fun _ => 0

theorem rankedAfter_cons_deleted {before : String → Nat} {h : Header} {hs : List Header}
    (hd : h.deleted = true) : RankedAfter before (h :: hs) ↔ RankedAfter before hs := by
  simp [RankedAfter, hd]

theorem rankedAfter_cons_live {before : String → Nat} {h : Header} {hs : List Header}
    (hd : h.deleted = false) :
    RankedAfter before (h :: hs)
      ↔ h.index = before (smallName h.key) + 1 ∧ RankedAfter (counted before h.key) hs := by
  simp [RankedAfter, hd]

theorem counted_same {before : String → Nat} {key key' : String} (h : sameName key key' = true) :
    counted before key (smallName key') = before (smallName key') + 1 := by
  simp [counted, sameName_iff.1 h]

theorem counted_other {before : String → Nat} {key key' : String}
    (h : sameName key key' = false) :
    counted before key (smallName key') = before (smallName key') := by
  have hne : smallName key' ≠ smallName key := fun heq => by
    rw [sameName_iff.2 heq.symm] at h
    cases h
  simp [counted, hne]

theorem counted_comm (before : String → Nat) (key key' : String) :
    counted (counted before key) key' = counted (counted before key') key := by
  funext name
  simp only [counted]
  split <;> split <;> rfl

/-- A header at the end keeps the headers in their places, as `RankedAfter` says, if it comes after all
of its name. -/
theorem rankedAfter_append {before : String → Nat} {hs : List Header} {h : Header}
    (hd : h.deleted = false) (hr : RankedAfter before hs)
    (hi : h.index = before (smallName h.key) + ((lines hs).values h.key).length + 1) :
    RankedAfter before (hs ++ [h]) := by
  induction hs generalizing before with
  | nil =>
    rw [List.nil_append, rankedAfter_cons_live hd]
    exact ⟨hi, trivial⟩
  | cons g gs ih =>
    rw [List.cons_append]
    rw [lines_cons] at hi
    cases hg : g.deleted with
    | true =>
      rw [rankedAfter_cons_deleted hg] at hr ⊢
      rw [if_pos hg] at hi
      exact ih hr hi
    | false =>
      rw [rankedAfter_cons_live hg] at hr ⊢
      rw [if_neg (by simp [hg]), Lines.values_cons] at hi
      refine ⟨hr.1, ih hr.2 ?_⟩
      cases hk : sameName g.key h.key with
      | true =>
        -- one more of the name before, one less of it to come
        rw [counted_same hk]
        rw [hk, if_pos rfl, List.length_cons] at hi
        omega
      | false =>
        rw [counted_other hk]
        simpa [hk] using hi

/-- The `index` of a header that is not deleted is its rank among the headers before it. -/
theorem index_eq_of_rankedAfter {before : String → Nat} {pre post : List Header} {h : Header}
    (hd : h.deleted = false) (hr : RankedAfter before (pre ++ h :: post)) :
    h.index = before (smallName h.key) + ((lines pre).values h.key).length + 1 := by
  induction pre generalizing before with
  | nil => exact ((rankedAfter_cons_live hd).1 hr).1
  | cons g gs ih =>
    rw [List.cons_append] at hr
    rw [lines_cons]
    cases hg : g.deleted with
    | true => exact ih ((rankedAfter_cons_deleted hg).1 hr)
    | false =>
      rw [ih ((rankedAfter_cons_live hg).1 hr).2, if_neg (by simp), Lines.values_cons]
      cases hk : sameName g.key h.key with
      | true =>
        rw [counted_same hk, if_pos rfl, List.length_cons]
        omega
      | false =>
        rw [counted_other hk]
        rfl

/-! ### Deleting -/

/-- Moves the headers of the name `key` up by one place. -/
def moveUp (key : String) (hs : List Header) : List Header :=
  hs.map fun h => if h.answersTo key then { h with index := h.index - 1 } else h

theorem lines_moveUp (key : String) (hs : List Header) : lines (moveUp key hs) = lines hs := by
  induction hs with
  | nil => rfl
  | cons h hs ih =>
    rw [moveUp, List.map_cons, lines_cons, lines_cons, ← moveUp, ih]
    cases ha : h.answersTo key <;> rfl

/-- With one header of a name less before them, the later ones of the name are one place up: they are
`RankedAfter` as `moveUp` leaves them. -/
theorem rankedAfter_moveUp {before : String → Nat} {key key' : String}
    (hkey : sameName key' key = true) {hs : List Header}
    (hr : RankedAfter (counted before key') hs) : RankedAfter before (moveUp key hs) := by
  -- the number before grows with each header of a name, so the induction is over all of them
  induction hs generalizing before with
  | nil => trivial
  | cons h hs ih =>
    rw [moveUp, List.map_cons, ← moveUp]
    cases hd : h.deleted with
    | true =>
      rw [rankedAfter_cons_deleted hd] at hr
      rw [if_neg (by simp [answersTo, hd]), rankedAfter_cons_deleted hd]
      exact ih hr
    | false =>
      rw [rankedAfter_cons_live hd, counted_comm] at hr
      cases hk : sameName h.key key with
      | true =>
        have hsame : sameName key' h.key = true := by
          rw [sameName_congr_left hkey, sameName_comm]
          exact hk
        rw [if_pos (by simp [answersTo, hd, hk])]
        refine (rankedAfter_cons_live rfl).2 ⟨?_, ih hr.2⟩
        show h.index - 1 = before (smallName h.key) + 1
        rw [hr.1, counted_same hsame]
        omega
      | false =>
        have hother : sameName key' h.key = false := by
          rw [sameName_congr_left hkey, sameName_comm]
          exact hk
        rw [if_neg (by simp [answersTo, hk]), rankedAfter_cons_live hd]
        refine ⟨?_, ih hr.2⟩
        rw [hr.1, counted_other hother]

/-- There is nothing for `deleteOccurrence` at a place before the first or after the last of a name. -/
theorem deleteOccurrence_eq_none {before : String → Nat} {hs : List Header} {key : String}
    {n : Nat} (hr : RankedAfter before hs)
    (hn : n ≤ before (smallName key)
      ∨ before (smallName key) + ((lines hs).values key).length < n) :
    Message.deleteOccurrence key n hs = none := by
  induction hs generalizing before with
  | nil => rfl
  | cons h hs ih =>
    rw [Message.deleteOccurrence]
    rw [lines_cons] at hn
    cases hd : h.deleted with
    | true =>
      rw [rankedAfter_cons_deleted hd] at hr
      rw [if_pos hd] at hn
      rw [if_neg (by simp [answersTo, hd]), ih hr hn]
      rfl
    | false =>
      rw [rankedAfter_cons_live hd] at hr
      rw [if_neg (by simp [hd]), Lines.values_cons] at hn
      cases hk : sameName h.key key with
      | true =>
        rw [hk, if_pos rfl, List.length_cons] at hn
        have hindex : h.index ≠ n := by
          rw [hr.1, sameName_iff.1 hk]
          omega
        rw [if_neg (by simp [hindex]), ih hr.2 (by rw [counted_same hk]; omega)]
        rfl
      | false =>
        rw [hk, if_neg (by simp)] at hn
        rw [if_neg (by simp [answersTo, hk]), ih hr.2 (by rw [counted_other hk]; exact hn)]
        rfl

/-- Deleting an occurrence of a name that is there is `Lines.erase` on the lines, and the places stay
right. -/
theorem deleteOccurrence_eq_some {before : String → Nat} {hs : List Header} (key : String)
    (i : Nat) (hr : RankedAfter before hs) (hi : i < ((lines hs).values key).length) :
    ∃ hs', Message.deleteOccurrence key (before (smallName key) + i + 1) hs = some hs' ∧
      RankedAfter before hs' ∧ lines hs' = (lines hs).erase key (i + 1) := by
  induction hs generalizing before i with
  | nil => simp at hi
  | cons h hs ih =>
    rw [Message.deleteOccurrence]
    rw [lines_cons] at hi ⊢
    cases hd : h.deleted with
    | true =>
      -- deleted before: it answers to no name
      rw [rankedAfter_cons_deleted hd] at hr
      rw [if_pos hd] at hi
      obtain ⟨hs', hdel, hr', hlines⟩ := ih i hr hi
      refine ⟨h :: hs', ?_, (rankedAfter_cons_deleted hd).2 hr', ?_⟩
      · rw [if_neg (by simp [answersTo, hd]), hdel]
        rfl
      · rw [lines_cons, if_pos hd, hlines, if_pos rfl]
    | false =>
      rw [rankedAfter_cons_live hd] at hr
      rw [if_neg (by simp [hd]), Lines.values_cons] at hi
      cases hk : sameName h.key key with
      | true =>
        rw [hk, if_pos rfl, List.length_cons] at hi
        have hindex : h.index = before (smallName key) + 1 := by
          rw [hr.1, sameName_iff.1 hk]
        rcases i with _ | i
        · -- this is the occurrence
          refine ⟨{ h with deleted := true } :: moveUp key hs, ?_, ?_, ?_⟩
          · rw [if_pos (by simp [answersTo, hd, hk, hindex])]
            rfl
          · rw [rankedAfter_cons_deleted rfl]
            exact rankedAfter_moveUp hk hr.2
          · rw [lines_cons, if_pos rfl, lines_moveUp, if_neg (by simp), Lines.erase_succ_cons]
            simp [hk]
        · -- an earlier occurrence
          obtain ⟨hs', hdel, hr', hlines⟩ := ih i hr.2 (by omega)
          rw [counted_same hk] at hdel
          refine ⟨h :: hs', ?_, (rankedAfter_cons_live hd).2 ⟨hr.1, hr'⟩, ?_⟩
          · rw [if_neg (by simp [hindex]),
              show before (smallName key) + (i + 1) + 1 = before (smallName key) + 1 + i + 1 by omega,
              hdel]
            rfl
          · rw [lines_cons, if_neg (by simp [hd]), hlines, if_neg (by simp), Lines.erase_succ_cons]
            simp [hk]
      | false =>
        rw [hk, if_neg (by simp)] at hi
        obtain ⟨hs', hdel, hr', hlines⟩ := ih i hr.2 hi
        rw [counted_other hk] at hdel
        refine ⟨h :: hs', ?_, (rankedAfter_cons_live hd).2 ⟨hr.1, hr'⟩, ?_⟩
        · rw [if_neg (by simp [answersTo, hk]), hdel]
          rfl
        · rw [lines_cons, if_neg (by simp [hd]), hlines, if_neg (by simp), Lines.erase_succ_cons]
          simp [hk]

end Header

/-! ### Messages -/

namespace Message

theorem nextIndex_eq (m : Message) (key : String) :
    m.nextIndex key = (m.lines.values key).length + 1 := by
  rw [nextIndex, headersNamed, lines, Header.values_lines, List.length_map]

theorem header?_eq (m : Message) (key : String) : m.header? key = (m.lines.values key).head? := by
  rw [header?, headersNamed, lines, Header.values_lines, List.head?_map]

theorem raw_eq (m : Message) : m.raw = m.lines.raw ++ utf8 "\r\n" ++ m.body := by
  rw [raw, Lines.raw, lines, Header.lines, List.flatMap_map]
  rfl

/-- Adding a header with `addHeader` is `Lines.add` on the lines. -/
theorem addHeader_eq {m : Message} (hopen : m.verdict = none) (key value : String) :
    ∃ headers, m.addHeader key value
        = .ok ((m.lines.values key).length + 1, { m with headers }) ∧
      Header.lines headers = m.lines.add key value ∧
      (Header.Ranked m.headers → Header.Ranked headers) := by
  refine ⟨m.headers ++ [{ key, value, index := m.nextIndex key }], ?_, ?_, fun hr => ?_⟩
  · simp [addHeader, whenOpen, isFinalized, hopen, nextIndex_eq]
  · rw [Header.lines_append]
    rfl
  · refine Header.rankedAfter_append rfl hr ?_
    show m.nextIndex key = 0 + (m.lines.values key).length + 1
    rw [nextIndex_eq]
    omega

/-- Deleting a header with `deleteHeader` is `Lines.erase` on the lines; it tells whether
there was one. -/
theorem deleteHeader_eq {m : Message} (hopen : m.verdict = none) (hr : Header.Ranked m.headers)
    (key : String) (i : Nat) :
    ∃ headers, m.deleteHeader key i
        = .ok (decide (1 ≤ i ∧ i ≤ (m.lines.values key).length), { m with headers }) ∧
      Header.lines headers = m.lines.erase key i ∧ Header.Ranked headers := by
  have hfin : m.isFinalized = false := by simp [isFinalized, hopen]
  by_cases hi : 1 ≤ i ∧ i ≤ (m.lines.values key).length
  · -- places are counted from one
    obtain ⟨hs', hdel, hr', hlines⟩ :=
      Header.deleteOccurrence_eq_some key (i - 1) hr (by rw [← lines]; omega)
    rw [show 0 + (i - 1) + 1 = i by omega] at hdel
    rw [show i - 1 + 1 = i by omega] at hlines
    refine ⟨hs', ?_, hlines, hr'⟩
    simp [deleteHeader, whenOpen, hfin, hdel, hi]
  · have hdel : deleteOccurrence key i m.headers = none :=
      Header.deleteOccurrence_eq_none hr (by rw [← lines]; omega)
    refine ⟨m.headers, ?_, ?_, hr⟩
    · simp only [deleteHeader, whenOpen, hfin, hdel, hi]
      rfl
    · rw [← lines]
      exact (Lines.erase_eq_self (by omega)).symm

/-- A message without a Message-Id is given one by `ensureMessageId`; any other is left alone. -/
theorem ensureMessageId_eq {m : Message} (hopen : m.verdict = none) (hostname : String) :
    (m.lines.values "Message-Id" ≠ [] ∧
      m.ensureMessageId hostname = .ok (m.synthesizedId, m)) ∨
    (m.lines.values "Message-Id" = [] ∧ ∃ headers, m.ensureMessageId hostname
        = .ok (some (m.idFor hostname),
          { m with headers, synthesizedId := some (m.idFor hostname) }) ∧
      Header.lines headers = m.lines.add "Message-Id" (m.idFor hostname) ∧
      (Header.Ranked m.headers → Header.Ranked headers)) := by
  rw [ensureMessageId, header?_eq]
  cases hv : m.lines.values "Message-Id" with
  | cons v vs => exact .inl ⟨by simp, rfl⟩
  | nil =>
    obtain ⟨headers, hadd, hlines, hr⟩ := addHeader_eq hopen "Message-Id" (m.idFor hostname)
    refine .inr ⟨rfl, headers, ?_, hlines, hr⟩
    simp [hadd, Except.map]

/-- What no operation on the headers touches: the messages `m` and `m'` differ in nothing else. -/
def SameEnvelope (m m' : Message) : Prop :=
  m'.id = m.id ∧ m'.queueId = m.queueId ∧ m'.verdict = m.verdict

theorem idFor_eq {m m' : Message} (h : m.SameEnvelope m') : m'.idFor = m.idFor := by
  funext hostname
  rw [idFor, idFor, h.1, h.2.1]

end Message

/-! ### Operations in a row -/

/-- An operation on the headers of a message. -/
inductive HeaderOperation where
  | add (key value : String)
  | delete (key : String) (index : Nat)
  /-- Gives a message without a Message-Id one at a host. -/
  | ensureId (hostname : String)

namespace HeaderOperation

/-- Carries out an operation on a message. -/
def perform (m : Message) : HeaderOperation → Except Failure Message
  | .add key value => (m.addHeader key value).map (·.2)
  | .delete key index => (m.deleteHeader key index).map (·.2)
  | .ensureId hostname => (m.ensureMessageId hostname).map (·.2)

/-- Carries out an operation on plain lines; `idAt` is the Message-Id to be given at a host. -/
def performOn (idAt : String → String) (l : Lines) : HeaderOperation → Lines
  | .add key value => l.add key value
  | .delete key index => l.erase key index
  | .ensureId hostname =>
    if (l.values "Message-Id").isEmpty then l.add "Message-Id" (idAt hostname) else l

/-- An operation on an open message succeeds, and acts on its `lines` as `performOn` does
on plain ones. -/
theorem perform_eq {m : Message} (hopen : m.verdict = none) (hr : Header.Ranked m.headers)
    (op : HeaderOperation) :
    ∃ m', op.perform m = .ok m' ∧ m.SameEnvelope m' ∧ Header.Ranked m'.headers ∧
      m'.lines = op.performOn m.idFor m.lines := by
  cases op with
  | add key value =>
    obtain ⟨headers, hadd, hlines, hr'⟩ := Message.addHeader_eq hopen key value
    exact ⟨{ m with headers }, by rw [perform, hadd]; rfl, ⟨rfl, rfl, rfl⟩, hr' hr, hlines⟩
  | delete key index =>
    obtain ⟨headers, hdel, hlines, hr'⟩ := Message.deleteHeader_eq hopen hr key index
    exact ⟨{ m with headers }, by rw [perform, hdel]; rfl, ⟨rfl, rfl, rfl⟩, hr', hlines⟩
  | ensureId hostname =>
    rw [perform, performOn]
    rcases Message.ensureMessageId_eq hopen hostname with
      ⟨hv, hensure⟩ | ⟨hv, headers, hensure, hlines, hr'⟩
    · rw [hensure, if_neg (by simpa using hv)]
      exact ⟨m, rfl, ⟨rfl, rfl, rfl⟩, hr, rfl⟩
    · rw [hensure, hv]
      exact ⟨_, rfl, ⟨rfl, rfl, rfl⟩, hr' hr, hlines⟩

/-- Operations on an open message succeed, and act on its `lines` as `performOn` does on plain ones. -/
theorem foldlM_perform {m : Message} (hopen : m.verdict = none) (hr : Header.Ranked m.headers)
    (ops : List HeaderOperation) :
    ∃ m', ops.foldlM perform m = .ok m' ∧ m'.verdict = none ∧ Header.Ranked m'.headers ∧
      m'.lines = ops.foldl (performOn m.idFor) m.lines := by
  induction ops generalizing m with
  | nil => exact ⟨m, rfl, hopen, hr, rfl⟩
  | cons op rest ih =>
    obtain ⟨m₁, h₁, hsame, hr₁, hlines₁⟩ := perform_eq hopen hr op
    obtain ⟨m₂, h₂, hopen₂, hr₂, hlines₂⟩ := ih (hsame.2.2.trans hopen) hr₁
    refine ⟨m₂, ?_, hopen₂, hr₂, ?_⟩
    · rw [List.foldlM_cons, h₁]
      exact h₂
    · rw [List.foldl_cons, ← hlines₁, ← Message.idFor_eq hsame]
      exact hlines₂

end HeaderOperation

namespace Header

/-- A header stands at a higher place than those of its name before it, where all are `Ranked`. -/
theorem index_lt_of_ranked {pre post : List Header} {h g : Header}
    (hr : Ranked (pre ++ h :: post)) (hd : h.deleted = false) (hg : g ∈ post)
    (ha : g.answersTo h.key = true) : h.index < g.index := by
  obtain ⟨between, rest, rfl⟩ := List.append_of_mem hg
  obtain ⟨hgd, hk⟩ : g.deleted = false ∧ sameName g.key h.key = true := by
    simpa [answersTo] using ha
  have hh := index_eq_of_rankedAfter hd hr
  have hsplit : pre ++ h :: (between ++ g :: rest) = (pre ++ h :: between) ++ g :: rest := by simp
  have hgi := index_eq_of_rankedAfter hgd (hsplit ▸ hr)
  rw [lines_append, lines_cons, if_neg (by simp [hd]), Lines.values_append, Lines.values_congr hk,
    Lines.values_congr hk, Lines.values_cons, if_pos (sameName_refl _), List.length_append,
    List.length_cons] at hgi
  omega

end Header

/-- A message whose headers are added, deleted and completed by a Message-Id acts as plain `Lines` do
under `performOn`: it holds their lines in order, every header carries its rank, an addition yields that
rank, a deletion tells whether the occurrence is there, and the first value of a name and the text that
is sent are those of the lines. The headers that a deletion moves up stand at higher places than the
deleted one, so no place falls below one. -/
theorem headers_refine_lines (id session : Uuid) (sender : Address) (receivedAt : Timestamp)
    (ops : List HeaderOperation) :
    ∃ m, ops.foldlM HeaderOperation.perform (Message.new id session sender receivedAt) = .ok m ∧
      m.lines
        = ops.foldl
            (HeaderOperation.performOn (Message.new id session sender receivedAt).idFor) [] ∧
      (∀ pre h post, m.headers = pre ++ h :: post → h.deleted = false →
        h.index = ((Header.lines pre).values h.key).length + 1 ∧
        ∀ g ∈ post, g.answersTo h.key = true → h.index < g.index) ∧
      (∀ key value, (m.addHeader key value).map (·.1) = .ok ((m.lines.values key).length + 1)) ∧
      (∀ key i, (m.deleteHeader key i).map (·.1)
        = .ok (decide (1 ≤ i ∧ i ≤ (m.lines.values key).length))) ∧
      (∀ key, m.header? key = (m.lines.values key).head?) ∧
      m.raw = m.lines.raw ++ utf8 "\r\n" ++ m.body := by
  obtain ⟨m, hm, hopen, hr, hlines⟩ :=
    HeaderOperation.foldlM_perform (m := Message.new id session sender receivedAt) rfl trivial ops
  refine ⟨m, hm, hlines, fun pre h post hsplit hd => ⟨?_, fun g hg ha => ?_⟩, fun key value => ?_,
    fun key i => ?_, m.header?_eq, m.raw_eq⟩
  · rw [hsplit] at hr
    rw [Header.index_eq_of_rankedAfter hd hr, Nat.zero_add]
  · rw [hsplit] at hr
    exact Header.index_lt_of_ranked hr hd hg ha
  · obtain ⟨headers, hadd, -⟩ := Message.addHeader_eq hopen key value
    rw [hadd]
    rfl
  · obtain ⟨headers, hdel, -⟩ := Message.deleteHeader_eq hopen hr key i
    rw [hdel]
    rfl

end MailFilter
