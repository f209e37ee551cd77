/-
Templates that replace headers.

A unique template deletes the headers of its name before it adds its own. Which ones, and how many, it
reads off the message as it was before any change, and in the end the first header of the name is deleted
that often. The first such template of a name takes away just what the message had of it. A second one
finds none of that any more and takes away what has been added in the meantime.

* `deletions_eq`: the deletions of a unique template;
* `written_templates`: what the changes of templates make of the headers, those that the message had and
  those that have been added;
* `compose_replaces_iff`: the result for all changes at the end of a message.
-/
import MailFilter.Proofs.Message.Composing
import MailFilter.Proofs.Message.Marking
import Mathlib.Data.List.Induction

namespace MailFilter

open Text

/-! ### Places -/

namespace Header

variable {hs : List Header} {key key' : String}

theorem answersTo_congr (hkey : sameName key key' = true) (h : Header) :
    h.answersTo key = h.answersTo key' := by
  rw [answersTo, answersTo, sameName_comm h.key, sameName_comm h.key, sameName_congr_left hkey]

/-- The headers of a name carry the places after those of the name that stand before, in order, where
they are `RankedAfter` them. -/
theorem indices_of_rankedAfter {before : String → Nat} (hr : RankedAfter before hs) :
    (hs.filter fun h => h.answersTo key).map (·.index) =
      List.range' (before (smallName key) + 1) (hs.filter fun h => h.answersTo key).length := by
  induction hs generalizing before with
  | nil => rfl
  | cons h rest ih =>
    cases hd : h.deleted with
    | true =>
      rw [List.filter_cons, if_neg (by simp [answersTo, hd])]
      exact ih ((rankedAfter_cons_deleted hd).1 hr)
    | false =>
      obtain ⟨hindex, hrest⟩ := (rankedAfter_cons_live hd).1 hr
      cases hk : sameName h.key key with
      | true =>
        have hi : h.index = before (smallName key) + 1 := by rw [hindex, sameName_iff.1 hk]
        rw [List.filter_cons, if_pos (by simp [answersTo, hd, hk]), List.map_cons, ih hrest,
          counted_same hk, List.length_cons, List.range'_succ, hi]
      | false =>
        rw [List.filter_cons, if_neg (by simp [answersTo, hk]), ih hrest, counted_other hk]

end Header

/-- Of headers in a row, it is always the first one that is deleted: `successivePlaces` are all 1. -/
theorem successivePlaces_range' (n : Nat) :
    successivePlaces (List.range' 1 n) = List.replicate n 1 := by
  induction n with
  | zero => rw [List.range'_zero, successivePlaces, List.replicate_zero]
  | succ n ih =>
    have hmoved : (List.range' 2 n).map (fun j => if 1 < j then j - 1 else j) = List.range' 1 n := by
      rw [List.range'_eq_map_range, List.range'_eq_map_range, List.map_map]
      refine List.map_congr_left fun j _ => ?_
      show (if 1 < 2 + j then 2 + j - 1 else 2 + j) = 1 + j
      rw [if_pos (by omega)]
      omega
    rw [List.range'_succ, successivePlaces, hmoved, ih, List.replicate_succ]

/-- The `deletions` of a unique template: it deletes the first header of its name, as often as the
message has it. -/
theorem Message.deletions_eq {m : Message} (hr : Header.Ranked m.headers) (key : String) :
    m.deletions key = List.replicate (m.headersNamed key).length (.delete key 1) := by
  rw [deletions, headersNamed, Header.indices_of_rankedAfter hr, successivePlaces_range',
    List.map_replicate]

/-! ### Behind the headers of a message -/

namespace Header

variable {o a : List Header} {key : String}

/-- The line of a header. -/
def line (h : Header) : String × String :=
  (h.key, h.value)

theorem line_of_unplaced {hs hs' : List Header} (h : hs.map unplaced = hs'.map unplaced) :
    hs.map line = hs'.map line := by
  have hline := congrArg (List.map fun u : String × String × Bool => (u.1, u.2.1)) h
  rwa [List.map_map, List.map_map] at hline

theorem live_of_unplaced {hs hs' : List Header} (h : hs.map unplaced = hs'.map unplaced) :
    (∀ x ∈ hs, x.deleted = false) ↔ ∀ x ∈ hs', x.deleted = false := by
  have hflags := congrArg (List.map fun u : String × String × Bool => u.2.2) h
  rw [List.map_map, List.map_map] at hflags
  have hall : ∀ l : List Header, (∀ x ∈ l, x.deleted = false) ↔
      ∀ d ∈ l.map (fun x => x.deleted), d = false := fun l => by simp
  rw [hall, hall]
  exact iff_of_eq (congrArg (fun ds => ∀ d ∈ ds, d = false) hflags)

/-- Where none of the first headers has the name, a `change` that deletes acts on those behind them. -/
theorem change_delete_behind (ho : ∀ h ∈ o, h.answersTo key = false) (i : Nat) :
    ∃ a', change (o ++ a) (.delete key i) = o ++ a' ∧ a'.map line = a.map line := by
  rw [change, deleteOccurrence_append ho]
  rcases deleteOccurrence_cases key i a with hnone | ⟨pre, h, post, rfl, -, -, hsome⟩
  · exact ⟨a, by rw [hnone]; rfl, rfl⟩
  · refine ⟨_, by rw [hsome]; rfl, ?_⟩
    rw [List.map_append, List.map_append, List.map_cons, List.map_cons,
      line_of_unplaced (unplaced_moveUp key post)]
    rfl

theorem foldl_change_behind (ho : ∀ h ∈ o, h.answersTo key = false) (n i : Nat) :
    ∃ a', (List.replicate n (HeaderMutation.delete key i)).foldl change (o ++ a) = o ++ a' ∧
      a'.map line = a.map line := by
  induction n generalizing a with
  | zero => exact ⟨a, rfl, rfl⟩
  | succ n ih =>
    obtain ⟨a₁, h₁, hline₁⟩ := change_delete_behind (a := a) ho i
    obtain ⟨a₂, h₂, hline₂⟩ := ih (a := a₁)
    exact ⟨a₂, by rw [List.replicate_succ, List.foldl_cons, h₁, h₂], hline₂.trans hline₁⟩

/-- It does not hit any of the first headers, as `Hits` would have it. -/
theorem not_hits_behind (ho : ∀ h ∈ o, h.answersTo key = false) (i : Nat) :
    ¬ Hits o.length (o ++ a) (.delete key i) := by
  rintro ⟨p, h, hlt, hp, ha, -⟩
  rw [List.getElem?_append_left hlt] at hp
  rw [ho h (List.mem_of_getElem? hp)] at ha
  cases ha

/-- If the name occurs behind them, a header there is marked. -/
theorem change_delete_marks (ho : ∀ h ∈ o, h.answersTo key = false) (hr : Ranked (o ++ a))
    (hne : (lines (o ++ a)).values key ≠ []) :
    ∃ p h, o.length ≤ p ∧ (change (o ++ a) (.delete key 1))[p]? = some h ∧ h.deleted = true := by
  obtain ⟨hs', hsome, -⟩ := deleteOccurrence_eq_some key 0 hr (List.length_pos_iff.2 hne)
  have hfound : Message.deleteOccurrence key 1 (o ++ a) = some hs' := hsome
  rw [change, hfound, Option.getD_some]
  rw [deleteOccurrence_append ho] at hfound
  rcases deleteOccurrence_cases key 1 a with hnone | ⟨pre, h, post, rfl, -, -, hmarks⟩
  · rw [hnone] at hfound
    cases hfound
  · rw [hmarks] at hfound
    refine ⟨o.length + pre.length, { h with deleted := true }, by omega, ?_, rfl⟩
    rw [← Option.some.inj hfound, List.getElem?_append_right (by omega), Nat.add_sub_cancel_left,
      List.getElem?_append_right (Nat.le_refl _), Nat.sub_self]
    rfl

end Header

/-! ### Templates -/

namespace ComposeContext

variable {ctx : ComposeContext} {ts : List HeaderTemplate} {t : HeaderTemplate}

/-- The template `t` replaces the headers of its name: it is unique and yields a value. -/
def replaces (ctx : ComposeContext) (t : HeaderTemplate) : Bool :=
  t.unique && !(ctx.values t).isEmpty

/-- What the templates `ts` make of a header that the message had. -/
def settled (ctx : ComposeContext) (ts : List HeaderTemplate) (h : Header) : Header :=
  if ts.any fun t => ctx.replaces t && h.answersTo t.key then { h with deleted := true, index := 1 }
  else h

/-- No two of the templates `ts` replace headers of one name that the message has. -/
def ReplacesOnce (ctx : ComposeContext) (ts : List HeaderTemplate) : Prop :=
  (ts.filter fun t => ctx.replaces t && !(ctx.message.headersNamed t.key).isEmpty).Pairwise
    fun t t' => sameName t.key t'.key = false

instance (ctx : ComposeContext) (ts : List HeaderTemplate) : Decidable (ctx.ReplacesOnce ts) :=
  inferInstanceAs (Decidable (List.Pairwise ..))

/-- The template `t` is to replace headers of the message that one of those before it, `ts`, has replaced
already. -/
def Repeats (ctx : ComposeContext) (ts : List HeaderTemplate) (t : HeaderTemplate) : Prop :=
  ctx.replaces t = true ∧ ctx.message.headersNamed t.key ≠ [] ∧
    ∃ t' ∈ ts, ctx.replaces t' = true ∧ sameName t'.key t.key = true

theorem replacesOnce_concat :
    ctx.ReplacesOnce (ts ++ [t]) ↔ ctx.ReplacesOnce ts ∧ ¬ ctx.Repeats ts t := by
  have hnamed : ∀ t' : HeaderTemplate, sameName t'.key t.key = true →
      ctx.message.headersNamed t'.key = ctx.message.headersNamed t.key := fun t' hk =>
    List.filter_congr fun h _ => Header.answersTo_congr hk h
  rw [ReplacesOnce, ReplacesOnce, List.filter_append, List.pairwise_append]
  constructor
  · rintro ⟨hts, -, hbetween⟩
    refine ⟨hts, fun ⟨hrep, hne, t', hmem, hrep', hk⟩ => ?_⟩
    have hdiffer := hbetween t' (by simp [hmem, hrep', hnamed t' hk, hne]) t (by simp [hrep, hne])
    rw [hk] at hdiffer
    cases hdiffer
  · rintro ⟨hts, hnot⟩
    refine ⟨hts, List.Pairwise.filter _ (List.pairwise_singleton ..), fun t' hmem' t₀ hmem => ?_⟩
    obtain ⟨hone, hreps⟩ := List.mem_filter.1 hmem
    obtain rfl := List.mem_singleton.1 hone
    obtain ⟨hmem', hreps'⟩ := List.mem_filter.1 hmem'
    rw [Bool.and_eq_true] at hreps hreps'
    rw [← Bool.not_eq_true]
    exact fun hk => hnot ⟨hreps.1, by simpa using hreps.2, t', hmem', hreps'.1, hk⟩

/-- The `mutations` of a template: it deletes what it `replaces`, and adds its values. -/
theorem mutations_eq_append (ctx : ComposeContext) (t : HeaderTemplate) :
    ctx.mutations t = (if ctx.replaces t then ctx.message.deletions t.key else []) ++
      (ctx.values t).map (.add t.key) := by
  by_cases hv : ctx.values t = []
  · rw [mutations_of_nil hv, replaces, hv, if_neg (by simp)]
    rfl
  · rw [mutations_eq hv, replaces]
    simp [hv]

/-- One of the templates `ts` replaces the headers of the name `key`. -/
def replacesName (ctx : ComposeContext) (ts : List HeaderTemplate) (key : String) : Bool :=
  ts.any fun t => ctx.replaces t && sameName t.key key

theorem replacesName_iff {key : String} : ctx.replacesName ts key = true ↔
    ∃ t ∈ ts, ctx.replaces t = true ∧ sameName t.key key = true := by
  simp only [replacesName, List.any_eq_true, Bool.and_eq_true]

/-- A header that has been `settled` answers to a name only if it has not been replaced. -/
theorem answersTo_settled (h : Header) (key : String) :
    (ctx.settled ts h).answersTo key = (h.answersTo key && !ctx.replacesName ts key) := by
  rw [settled, replacesName]
  cases hk : h.answersTo key with
  | true =>
    obtain ⟨hd, hkey⟩ : h.deleted = false ∧ sameName h.key key = true := by
      simpa [Header.answersTo] using hk
    have hsame : ∀ t : HeaderTemplate, h.answersTo t.key = sameName t.key key := fun t => by
      rw [Header.answersTo, hd, sameName_congr_left hkey, sameName_comm]
      rfl
    simp only [hsame, Bool.true_and]
    split
    · next hany =>
      rw [hany]
      rfl
    · next hany =>
      rw [hk, Bool.eq_false_iff.2 hany]
      rfl
  | false =>
    split
    · rfl
    · exact hk

theorem settled_concat (h : Header) :
    ctx.settled (ts ++ [t]) h
      = if ctx.replaces t then Header.strike t.key (ctx.settled ts h) else ctx.settled ts h := by
  have hany : (ts ++ [t]).any (fun t => ctx.replaces t && h.answersTo t.key)
      = ((ts.any fun t => ctx.replaces t && h.answersTo t.key)
        || (ctx.replaces t && h.answersTo t.key)) := by simp
  rw [settled, settled, hany]
  cases hts : ts.any fun t => ctx.replaces t && h.answersTo t.key with
  | true =>
    -- it has been replaced already
    rw [Bool.true_or, if_pos rfl, Header.strike_of_not (by rfl), ite_self]
  | false =>
    rw [Bool.false_or, if_neg Bool.false_ne_true, Header.strike]
    cases ctx.replaces t <;> simp

theorem map_settled_concat (hrep : ctx.replaces t = true) (hs : List Header) :
    hs.map (ctx.settled (ts ++ [t])) = (hs.map (ctx.settled ts)).map (Header.strike t.key) := by
  rw [List.map_map]
  refine List.map_congr_left fun h _ => ?_
  rw [settled_concat, if_pos hrep]
  rfl

/-- The first template that `replaces` a name deletes what the message has of it. -/
theorem foldl_deletions_first {a : List Header} (hm : Header.Ranked ctx.message.headers)
    (hr : Header.Ranked (ctx.message.headers.map (ctx.settled ts) ++ a)) (hrep : ctx.replaces t = true)
    (hfirst : ctx.replacesName ts t.key = false) :
    Header.AllHit ctx.message.headers.length (ctx.message.headers.map (ctx.settled ts) ++ a)
      (ctx.message.deletions t.key) ∧
    ∃ a₁, (ctx.message.deletions t.key).foldl Header.change
        (ctx.message.headers.map (ctx.settled ts) ++ a)
        = ctx.message.headers.map (ctx.settled (ts ++ [t])) ++ a₁ ∧
      a₁.map Header.unplaced = a.map Header.unplaced := by
  have hcount : ((ctx.message.headers.map (ctx.settled ts)).filter fun h => h.answersTo t.key).length
      = (ctx.message.headersNamed t.key).length := by
    rw [List.filter_map, List.length_map]
    refine congrArg List.length (List.filter_congr fun h _ => ?_)
    show (ctx.settled ts h).answersTo t.key = _
    rw [answersTo_settled, hfirst]
    exact Bool.and_true _
  obtain ⟨hhits, hfold⟩ := Header.foldl_change_replicate hr hcount
  rw [List.length_map] at hhits
  rw [ctx.message.deletions_eq hm, map_settled_concat hrep]
  exact ⟨hhits, hfold⟩

/-- A later one, which `Repeats` it, deletes what has been added since, and spares what the message has
had. -/
theorem foldl_deletions_again {a : List Header} (hm : Header.Ranked ctx.message.headers)
    (hrep : ctx.replaces t = true) (hagain : ctx.replacesName ts t.key = true) :
    ∃ a₁, (ctx.message.deletions t.key).foldl Header.change
        (ctx.message.headers.map (ctx.settled ts) ++ a)
        = ctx.message.headers.map (ctx.settled (ts ++ [t])) ++ a₁ ∧
      a₁.map Header.line = a.map Header.line ∧
      (ctx.message.headersNamed t.key = [] → a₁ = a) ∧
      (ctx.message.headersNamed t.key ≠ [] →
        ¬ Header.AllHit ctx.message.headers.length (ctx.message.headers.map (ctx.settled ts) ++ a)
          (ctx.message.deletions t.key) ∧
        (Header.Ranked (ctx.message.headers.map (ctx.settled ts) ++ a) →
          (Header.lines (ctx.message.headers.map (ctx.settled ts) ++ a)).values t.key ≠ [] →
          ∃ h ∈ a₁, h.deleted = true)) := by
  have ho : ∀ h ∈ ctx.message.headers.map (ctx.settled ts), h.answersTo t.key = false := by
    intro h hh
    obtain ⟨g, -, rfl⟩ := List.mem_map.1 hh
    rw [answersTo_settled, hagain]
    exact Bool.and_false _
  have hlength : (ctx.message.headers.map (ctx.settled ts)).length = ctx.message.headers.length :=
    List.length_map _
  rw [ctx.message.deletions_eq hm, map_settled_concat hrep, Header.map_strike_of_not ho]
  obtain ⟨a₁, hfold, hline⟩ :=
    Header.foldl_change_behind (a := a) ho (ctx.message.headersNamed t.key).length 1
  refine ⟨a₁, hfold, hline, fun hnone => ?_, fun hsome => ?_⟩
  · rw [hnone] at hfold
    exact (List.append_cancel_left hfold).symm
  · obtain ⟨n, hn⟩ : ∃ n, (ctx.message.headersNamed t.key).length = n + 1 :=
      Nat.exists_eq_succ_of_ne_zero (mt List.length_eq_zero_iff.1 hsome)
    rw [hn] at hfold ⊢
    refine ⟨fun hhits => ?_, fun hr hne => ?_⟩
    · rw [← hlength] at hhits
      exact Header.not_hits_behind ho 1 hhits.1
    · -- the first deletion marks a header that has been added
      obtain ⟨p, h, hp, hmarked, hd⟩ := Header.change_delete_marks ho hr hne
      have hend := Header.getElem?_foldl_change hmarked hd
        (List.replicate n (HeaderMutation.delete t.key 1))
      rw [← List.foldl_cons, ← List.replicate_succ, hfold, List.getElem?_append_right hp] at hend
      exact ⟨h, List.mem_of_getElem? hend, hd⟩

/-- A template deletes what the message has of its name, unless it `Repeats` one before it: then it
deletes what has been added since. -/
theorem foldl_deletions {a : List Header} (hm : Header.Ranked ctx.message.headers)
    (hr : Header.Ranked (ctx.message.headers.map (ctx.settled ts) ++ a)) (hrep : ctx.replaces t = true)
    (hne : ctx.Repeats ts t →
      (Header.lines (ctx.message.headers.map (ctx.settled ts) ++ a)).values t.key ≠ []) :
    ∃ a₁, (ctx.message.deletions t.key).foldl Header.change
        (ctx.message.headers.map (ctx.settled ts) ++ a)
        = ctx.message.headers.map (ctx.settled (ts ++ [t])) ++ a₁ ∧
      a₁.map Header.line = a.map Header.line ∧
      (Header.AllHit ctx.message.headers.length (ctx.message.headers.map (ctx.settled ts) ++ a)
        (ctx.message.deletions t.key) ↔ ¬ ctx.Repeats ts t) ∧
      ((∀ h ∈ a₁, h.deleted = false) ↔ (∀ h ∈ a, h.deleted = false) ∧ ¬ ctx.Repeats ts t) := by
  cases hname : ctx.replacesName ts t.key with
  | false =>
    have hnot : ¬ ctx.Repeats ts t := fun h => by
      rw [replacesName_iff.2 h.2.2] at hname
      cases hname
    obtain ⟨hhits, a₁, hfold, hunplaced⟩ := foldl_deletions_first hm hr hrep hname
    exact ⟨a₁, hfold, Header.line_of_unplaced hunplaced, iff_of_true hhits hnot, by
      rw [Header.live_of_unplaced hunplaced, and_iff_left hnot]⟩
  | true =>
    obtain ⟨a₁, hfold, hline, hnone, hsome⟩ := foldl_deletions_again (a := a) hm hrep hname
    refine ⟨a₁, hfold, hline, ?_⟩
    by_cases hnamed : ctx.message.headersNamed t.key = []
    · -- the message has nothing of the name, so there is nothing to delete
      have hnot : ¬ ctx.Repeats ts t := fun h => h.2.1 hnamed
      rw [hnone hnamed, ctx.message.deletions_eq hm, hnamed]
      exact ⟨iff_of_true trivial hnot, (and_iff_left hnot).symm⟩
    · have hrepeats : ctx.Repeats ts t := ⟨hrep, hnamed, replacesName_iff.1 hname⟩
      obtain ⟨hmisses, hmarks⟩ := hsome hnamed
      refine ⟨iff_of_false hmisses (not_not_intro hrepeats),
        iff_of_false (fun hlive => ?_) fun h => h.2 hrepeats⟩
      obtain ⟨h, hh, hd⟩ := hmarks hr (hne hrepeats)
      rw [hlive h hh] at hd
      cases hd

/-! ### Templates in a row -/

end ComposeContext

/-- The line that a change adds. -/
def HeaderMutation.line? : HeaderMutation → Option (String × String)
  | add key value => some (key, value)
  | delete _ _ => none

namespace ComposeContext

variable {ctx : ComposeContext} {ts : List HeaderTemplate} {t : HeaderTemplate}

/-- What the changes of the templates `ts` make of the headers of a message: those that it had, as they
are `settled`, and those that have been added to them. -/
structure Written (ctx : ComposeContext) (ts : List HeaderTemplate) (mutations : List HeaderMutation)
    (a : List Header) : Prop where
  headers : mutations.foldl Header.change ctx.message.headers
    = ctx.message.headers.map (ctx.settled ts) ++ a
  lines : a.map Header.line = mutations.filterMap HeaderMutation.line?
  hits : Header.AllHit ctx.message.headers.length ctx.message.headers mutations ↔ ctx.ReplacesOnce ts
  live : (∀ h ∈ a, h.deleted = false) ↔ ctx.ReplacesOnce ts

/-- Additions are `Written` behind everything else. -/
theorem Written.add {mutations : List HeaderMutation} {a : List Header}
    (h : ctx.Written ts mutations a) (key : String) (values : List String) :
    ∃ a', ctx.Written ts (mutations ++ values.map (.add key)) a' := by
  obtain ⟨hhits, new, hnew, hunplaced⟩ := Header.foldl_change_add ctx.message.headers.length
    (ctx.message.headers.map (ctx.settled ts) ++ a) key values
  have hlines : new.map Header.line = values.map fun v => (key, v) := by
    have hline := congrArg (List.map fun u : String × String × Bool => (u.1, u.2.1)) hunplaced
    rwa [List.map_map, List.map_map] at hline
  have hlive : ∀ x ∈ new, x.deleted = false := by
    have hflags := congrArg (List.map fun u : String × String × Bool => u.2.2) hunplaced
    rw [List.map_map, List.map_map] at hflags
    intro x hx
    have hmem : x.deleted ∈ new.map (fun x => x.deleted) := List.mem_map_of_mem hx
    have hflags' : new.map (fun x => x.deleted) = values.map fun _ => false := hflags
    obtain ⟨v, -, hv⟩ := List.mem_map.1 (hflags' ▸ hmem)
    exact hv.symm
  refine ⟨a ++ new, ?_, ?_, ?_, ?_⟩
  · rw [List.foldl_append, h.headers, hnew, List.append_assoc]
  · have hadds : values.filterMap (HeaderMutation.line? ∘ HeaderMutation.add key)
        = values.map fun v => (key, v) := congrFun List.filterMap_eq_map values
    rw [List.map_append, List.filterMap_append, h.lines, hlines, List.filterMap_map, hadds]
  · rw [Header.allHit_append, h.headers, and_iff_left hhits, h.hits]
  · rw [← h.live, List.forall_mem_append, and_iff_left hlive]

theorem line?_deletions (m : Message) (key : String) :
    (m.deletions key).filterMap HeaderMutation.line? = [] := by
  rw [Message.deletions, List.filterMap_map, List.filterMap_eq_nil_iff]
  exact fun _ _ => rfl

/-- Before a template adds its values, it deletes what it `replaces`. -/
theorem Written.delete {a : List Header} (hm : Header.Ranked ctx.message.headers)
    (h : ctx.Written ts (ts.flatMap ctx.mutations) a) (t : HeaderTemplate) :
    ∃ a', ctx.Written (ts ++ [t]) (ts.flatMap ctx.mutations ++
      if ctx.replaces t then ctx.message.deletions t.key else []) a' := by
  by_cases hrep : ctx.replaces t = true
  · obtain ⟨hr, hlines⟩ := Header.ranked_foldl_change hm (ts.flatMap ctx.mutations)
    rw [h.headers] at hr hlines
    have hne : ctx.Repeats ts t →
        (Header.lines (ctx.message.headers.map (ctx.settled ts) ++ a)).values t.key ≠ [] := by
      rintro ⟨-, -, t', hmem, hrep', hk⟩
      rw [replaces, Bool.and_eq_true] at hrep'
      rw [hlines, Lines.values_applyAll]
      exact foldl_templates_ne_nil (.inr ⟨t', hmem, hk, by simpa using hrep'.2⟩)
    obtain ⟨a₁, hfold, hline, hhits, hlive⟩ := foldl_deletions hm hr hrep hne
    rw [if_pos hrep]
    refine ⟨a₁, ?_, ?_, ?_, ?_⟩
    · rw [List.foldl_append, h.headers, hfold]
    · rw [hline, h.lines, List.filterMap_append, line?_deletions, List.append_nil]
    · rw [Header.allHit_append, h.headers, hhits, h.hits, replacesOnce_concat]
    · rw [hlive, h.live, replacesOnce_concat]
  · have hnot : ¬ ctx.Repeats ts t := fun h => hrep h.1
    have honce : ctx.ReplacesOnce (ts ++ [t]) ↔ ctx.ReplacesOnce ts := by
      rw [replacesOnce_concat, and_iff_left hnot]
    have hsame : ctx.message.headers.map (ctx.settled (ts ++ [t]))
        = ctx.message.headers.map (ctx.settled ts) :=
      List.map_congr_left fun x _ => by rw [settled_concat, if_neg hrep]
    rw [if_neg hrep, List.append_nil]
    exact ⟨a, by rw [h.headers, hsame], h.lines, h.hits.trans honce.symm, h.live.trans honce.symm⟩

/-- What templates make of the headers of a message, as it is `Written`. -/
theorem written_templates (hm : Header.Ranked ctx.message.headers) (ts : List HeaderTemplate) :
    ∃ a, ctx.Written ts (ts.flatMap ctx.mutations) a := by
  induction ts using List.reverseRecOn with
  | nil =>
    have honce : ctx.ReplacesOnce [] := List.Pairwise.nil
    refine ⟨[], ?_, rfl, iff_of_true trivial honce, iff_of_true (by simp) honce⟩
    exact (List.append_nil _).symm ▸ (List.map_id' _).symm
  | append_singleton ts t ih =>
    obtain ⟨a, h⟩ := ih
    obtain ⟨a₁, h₁⟩ := h.delete hm t
    rw [List.flatMap_append, List.flatMap_singleton, mutations_eq_append, ← List.append_assoc]
    exact h₁.add t.key (ctx.values t)

theorem written_compose (hm : Header.Ranked ctx.message.headers) (ts : List HeaderTemplate) :
    ∃ a, ctx.Written ts (ctx.compose ts) a := by
  obtain ⟨a, h⟩ := written_templates hm ts
  exact h.add "Message-Id" ctx.message.synthesizedId.toList

end ComposeContext

/-! ### The end of a message -/

namespace Message

/-- A deletion takes away one of the first `n` headers of a message. -/
def Loses (m : Message) (n : Nat) (key : String) (i : Nat) : Prop :=
  ∃ m' p h, m.deleteHeader key i = .ok (true, m') ∧ p < n ∧ m.headers[p]? = some h ∧
    h.answersTo key = true ∧ h.index = i ∧ m'.headers[p]? = some { h with deleted := true }

theorem loses_iff {m : Message} (hopen : m.verdict = none) (hs : List Header) (n : Nat)
    (key : String) (i : Nat) :
    ({ m with headers := hs } : Message).Loses n key i ↔ Header.Hits n hs (.delete key i) := by
  have hfin : ({ m with headers := hs } : Message).isFinalized = false := by simp [isFinalized, hopen]
  rw [Loses, Header.Hits, Header.change]
  simp only [deleteHeader, whenOpen, hfin]
  cases hd : deleteOccurrence key i hs with
  | none =>
    constructor
    · rintro ⟨m', p, h, ⟨⟩, -⟩
    · rintro ⟨p, h, -, hp, ha, -, hmarked⟩
      -- nothing has been marked
      rw [Option.getD_none, hp] at hmarked
      have hdeleted : h.deleted = true := congrArg Header.deleted (Option.some.inj hmarked)
      simp [Header.answersTo, hdeleted] at ha
  | some headers =>
    constructor
    · rintro ⟨m', p, h, heq, hp⟩
      obtain rfl := (Prod.mk.inj (Except.ok.inj heq)).2
      exact ⟨p, h, hp⟩
    · rintro ⟨p, h, hp⟩
      exact ⟨_, p, h, rfl, hp⟩

end Message

/-- **Header templates replace just the headers that the message has come with, each name once.** The
changes composed at the end of a message are made in order while it is open. In any case every header
that it had is deleted if a unique template yields a value for its name, and is left as it is if none
does, as `settled` says; and the lines behind are those that have been added. But that every deletion
takes away a header which the message had, and that every header stays which has been added, holds just
if no two templates replace headers of one name. -/
theorem compose_replaces_iff (ctx : ComposeContext) (hopen : ctx.message.verdict = none)
    (hranked : Header.Ranked ctx.message.headers) (templates : List HeaderTemplate) :
    ∃ m, ctx.message.mutateAll (ctx.compose templates) = .ok m ∧
      (∀ (p : Nat) (h : Header), ctx.message.headers[p]? = some h →
        (h.deleted = false → (∃ t ∈ templates, ctx.replaces t = true ∧ sameName h.key t.key = true) →
          ∃ h' : Header, m.headers[p]? = some h' ∧ h'.deleted = true) ∧
        ((∀ t ∈ templates, ctx.replaces t = true → sameName h.key t.key = false) →
          m.headers[p]? = some h)) ∧
      (m.headers.drop ctx.message.headers.length).map (fun h => (h.key, h.value))
        = (ctx.compose templates).filterMap HeaderMutation.line? ∧
      ((∀ before key i after, ctx.compose templates = before ++ .delete key i :: after →
          ∃ m₁, ctx.message.mutateAll before = .ok m₁ ∧
            m₁.Loses ctx.message.headers.length key i) ↔ ctx.ReplacesOnce templates) ∧
      ((∀ h ∈ m.headers.drop ctx.message.headers.length, h.deleted = false) ↔
        ctx.ReplacesOnce templates) := by
  -- the headers that the message had stand before those that have been added, at their old places
  obtain ⟨a, h⟩ := ctx.written_compose hranked templates
  have hdrop : (ctx.message.headers.map (ctx.settled templates) ++ a).drop ctx.message.headers.length
      = a := List.drop_left' (List.length_map _)
  refine ⟨_, Message.mutateAll_eq hopen _, fun p x hp => ?_, ?_, ?_, ?_⟩
  · obtain ⟨hlt, -⟩ := List.getElem?_eq_some_iff.1 hp
    have hsettled : ((ctx.compose templates).foldl Header.change ctx.message.headers)[p]?
        = some (ctx.settled templates x) := by
      rw [h.headers, List.getElem?_append_left (by simpa using hlt), List.getElem?_map, hp]
      rfl
    rw [hsettled]
    refine ⟨fun hd ⟨t, ht, hrep, hk⟩ => ⟨_, rfl, ?_⟩, fun hnone => ?_⟩
    · rw [ComposeContext.settled, if_pos]
      exact List.any_eq_true.2 ⟨t, ht, by simp [hrep, Header.answersTo, hd, hk]⟩
    · rw [ComposeContext.settled, if_neg]
      rw [Bool.not_eq_true, List.any_eq_false]
      intro t ht hany
      rw [Bool.and_eq_true, Header.answersTo, Bool.and_eq_true, hnone t ht (by simp_all)] at hany
      cases hany.2.2
  · rw [h.headers, hdrop]
    exact h.lines
  · rw [← h.hits, Header.allHit_iff]
    refine ⟨fun hloses before mutation after heq => ?_, fun hhits before key i after heq =>
      ⟨_, Message.mutateAll_eq hopen before, ?_⟩⟩
    · cases mutation with
      | add k v => trivial
      | delete k i =>
        obtain ⟨m₁, hm₁, hl⟩ := hloses before k i after heq
        rw [Message.mutateAll_eq hopen] at hm₁
        obtain rfl := Except.ok.inj hm₁
        exact (Message.loses_iff hopen _ _ _ _).1 hl
    · exact (Message.loses_iff hopen _ _ _ _).2 (hhits before (.delete key i) after heq)
  · rw [h.headers, hdrop]
    exact h.live

/-- A message with some headers, about to be sent on. -/
def sent (headers : List Header) : ComposeContext :=
  { hostname := "mx.example.com"
    spamFlagThreshold := 100
    message :=
      { Message.new (Uuid.issued 0) (Uuid.issued 1) ⟨"<a@example.org>", "a@example.org"⟩
          { nanos := 0 } with headers }
    verdict := ⟨.permit, "", 0, 100, 0, 100, none, false, []⟩ }

/-- Two headers of a name, one of another between them. -/
def lettered : List Header :=
  [⟨"X-A", "old", 1, false⟩, ⟨"X-B", "kept", 1, false⟩, ⟨"x-a", "older", 2, false⟩]

/-- Both headers of the name in `lettered` are deleted, and everything added stays. -/
theorem compose_replaces_iff_lettered :
    (sent lettered).message.verdict = none ∧ Header.Ranked lettered ∧
    ∃ m, (sent lettered).message.mutateAll
        ((sent lettered).compose [⟨"X-a", "new", true⟩, ⟨"X-B", "too", false⟩]) = .ok m ∧
      (∃ h, m.headers[2]? = some h ∧ h.deleted = true) ∧
      m.headers[1]? = some ⟨"X-B", "kept", 1, false⟩ ∧
      (m.headers.drop 3).map (fun h => (h.key, h.value)) = [("X-a", "new"), ("X-B", "too")] ∧
      ∀ h ∈ m.headers.drop 3, h.deleted = false := by
  have hranked : Header.Ranked lettered := by
    simp only [Header.Ranked, Header.RankedAfter, lettered, Header.counted]
    decide +kernel
  have honce : (sent lettered).ReplacesOnce [⟨"X-a", "new", true⟩, ⟨"X-B", "too", false⟩] := by
    decide +kernel
  obtain ⟨m, hm, hold, hlines, -, hlive⟩ := compose_replaces_iff (sent lettered) rfl hranked
    [⟨"X-a", "new", true⟩, ⟨"X-B", "too", false⟩]
  refine ⟨rfl, hranked, m, hm, (hold 2 ⟨"x-a", "older", 2, false⟩ rfl).1 rfl ?_,
    (hold 1 ⟨"X-B", "kept", 1, false⟩ rfl).2 ?_, hlines.trans ?_, hlive.2 honce⟩
  · exact ⟨⟨"X-a", "new", true⟩, by simp, by decide +kernel, by decide +kernel⟩
  · decide +kernel
  · decide +kernel

/-- Two templates for a header that the message has. The second one does not find it any more, and
takes away what the first one has added. -/
theorem first_template_undone :
    Header.Ranked [⟨"X-A", "old", 1, false⟩] ∧
    ∃ m m₁, (sent [⟨"X-A", "old", 1, false⟩]).message.verdict = none ∧
      (sent [⟨"X-A", "old", 1, false⟩]).compose [⟨"X-A", "a", true⟩, ⟨"x-a", "b", true⟩]
        = [.delete "X-A" 1, .add "X-A" "a", .delete "x-a" 1, .add "x-a" "b"] ∧
      (sent [⟨"X-A", "old", 1, false⟩]).message.mutateAll
        [.delete "X-A" 1, .add "X-A" "a", .delete "x-a" 1, .add "x-a" "b"] = .ok m ∧
      m.headers.drop 1 = [⟨"X-A", "a", 1, true⟩, ⟨"x-a", "b", 1, false⟩] ∧
      (sent [⟨"X-A", "old", 1, false⟩]).message.mutateAll
        [.delete "X-A" 1, .add "X-A" "a"] = .ok m₁ ∧
      ¬ m₁.Loses 1 "x-a" 1 := by
  have hranked : Header.Ranked [⟨"X-A", "old", 1, false⟩] := by
    simp only [Header.Ranked, Header.RankedAfter]
    decide +kernel
  refine ⟨hranked, _, _, rfl, by decide +kernel, Message.mutateAll_eq rfl _, by decide +kernel,
    Message.mutateAll_eq rfl _, ?_⟩
  rintro ⟨m', p, h, -, hlt, hp, ha, -⟩
  obtain rfl := Nat.lt_one_iff.1 hlt
  -- the only header that the message had is marked
  have hfirst : ([HeaderMutation.delete "X-A" 1, .add "X-A" "a"].foldl Header.change
      [⟨"X-A", "old", 1, false⟩])[0]? = some ⟨"X-A", "old", 1, true⟩ := by decide +kernel
  obtain rfl := Option.some.inj (hp.symm.trans hfirst)
  cases ha

end MailFilter
