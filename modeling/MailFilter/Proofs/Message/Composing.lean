/-
The headers of a message and those of the mail server after the end of the message.

The changes are composed from the filter's copy of the headers, which has had the Message-Id that the
filter has given the message from before, and are then made on both copies. The filter leaves out those
that would add that Message-Id again; to the server it comes last, after what the templates add. So the
copies part just if a template has been at work on the Message-Id in between.

* `foldl_templates_ne_nil`: a template that yields a value of a name leaves the name with one;
* `not_mem_tail_foldl`: the Message-Id that is left out does not come back;
* `compose_agrees_iff`: when the two copies agree.
-/
import MailFilter.Proofs.Message.Rewriting

namespace MailFilter

open Text Lines

/-- The message `m` has come with the lines `l`, and has been given a Message-Id if it
came without one. -/
structure Message.CompletedFrom (l : Lines) (m : Message) : Prop where
  ranked : Header.Ranked m.headers
  lines : (l.values "Message-Id" ≠ [] ∧ m.lines = l ∧ m.synthesizedId = none) ∨
    (l.values "Message-Id" = [] ∧
      ∃ v, m.lines = l.add "Message-Id" v ∧ m.synthesizedId = some v)

namespace ComposeContext

variable {ctx : ComposeContext} {key : String}

/-! ### The changes of a template -/

/-- One of the `templates` yields a value for the name `key`. -/
def Yields (ctx : ComposeContext) (key : String) (templates : List HeaderTemplate) : Prop :=
  ∃ t ∈ templates, sameName t.key key = true ∧ ctx.values t ≠ []

theorem mutations_of_nil {t : HeaderTemplate} (h : ctx.values t = []) : ctx.mutations t = [] := by
  unfold mutations
  split
  · rfl
  · next hne => exact absurd h hne

/-- The `mutations` of a template that yields values: it adds them, after the `deletions` if it is
unique. -/
theorem mutations_eq {t : HeaderTemplate} (h : ctx.values t ≠ []) :
    ctx.mutations t = (if t.unique then ctx.message.deletions t.key else []) ++
      (ctx.values t).map (.add t.key) := by
  unfold mutations
  split
  · next hnil => exact absurd hnil h
  · rfl

/-- The `mutations` of a template that yields values end with the addition of the last one. -/
theorem mutations_of_values {t : HeaderTemplate} (h : ctx.values t ≠ []) :
    ∃ init v, ctx.mutations t = init ++ [.add t.key v] := by
  have hne : (ctx.values t).map (HeaderMutation.add t.key) ≠ [] := by simpa using h
  obtain ⟨v, -, hv⟩ := List.mem_map.1 (List.getLast_mem hne)
  refine ⟨(if t.unique then ctx.message.deletions t.key else []) ++
    ((ctx.values t).map (HeaderMutation.add t.key)).dropLast, v, ?_⟩
  rw [mutations_eq h, List.append_assoc, hv, List.dropLast_concat_getLast]

/-- All `mutations` of a template are about its name. -/
theorem key_of_mem_mutations {t : HeaderTemplate} {mutation : HeaderMutation}
    (h : mutation ∈ ctx.mutations t) : mutation.key = t.key := by
  unfold mutations at h
  split at h
  · cases h
  · rcases List.mem_append.1 h with h | h
    · split at h
      · obtain ⟨i, -, rfl⟩ := List.mem_map.1 h
        rfl
      · cases h
    · obtain ⟨v, -, rfl⟩ := List.mem_map.1 h
      rfl

/-- A template of another name, or without values, does nothing to the values of a name: they go through
`applyValue` unchanged. -/
theorem foldl_mutations_other {t : HeaderTemplate}
    (h : sameName t.key key = true → ctx.values t = []) (vs : List String) :
    (ctx.mutations t).foldl (applyValue key) vs = vs := by
  cases hk : sameName t.key key with
  | true =>
    rw [mutations_of_nil (h hk)]
    rfl
  | false =>
    refine foldl_applyValue_other (fun mutation hm => ?_) vs
    rw [key_of_mem_mutations hm]
    exact hk

/-- Where no template `Yields` values for a name, no change is about it. -/
theorem key_of_not_yields {templates : List HeaderTemplate} (h : ¬ ctx.Yields key templates)
    {mutation : HeaderMutation} (hm : mutation ∈ templates.flatMap ctx.mutations) :
    sameName mutation.key key = false := by
  obtain ⟨t, ht, hmem⟩ := List.mem_flatMap.1 hm
  rw [key_of_mem_mutations hmem, ← Bool.not_eq_true]
  intro hk
  refine h ⟨t, ht, hk, fun hnil => ?_⟩
  rw [mutations_of_nil hnil] at hmem
  cases hmem

/-- A name that templates yield values for has some after them, whatever it had before: of the last such
template, the last of its `mutations` is an addition. -/
theorem foldl_templates_ne_nil {templates : List HeaderTemplate} {vs : List String}
    (h : vs ≠ [] ∨ ctx.Yields key templates) :
    (templates.flatMap ctx.mutations).foldl (applyValue key) vs ≠ [] := by
  induction templates generalizing vs with
  | nil =>
    rcases h with h | ⟨t, hmem, -⟩
    · exact h
    · cases hmem
  | cons t rest ih =>
    rw [List.flatMap_cons, List.foldl_append]
    refine ih ?_
    by_cases ht : sameName t.key key = true ∧ ctx.values t ≠ []
    · -- whatever it deletes, the last thing that this template does is to add
      obtain ⟨init, v, hblock⟩ := mutations_of_values ht.2
      refine .inl ?_
      rw [hblock, List.foldl_append]
      simp [applyValue, ht.1]
    · have hother : sameName t.key key = true → ctx.values t = [] := by
        intro hk
        exact Classical.byContradiction fun hv => ht ⟨hk, hv⟩
      rw [foldl_mutations_other hother]
      rcases h with h | ⟨t', hmem, ht'⟩
      · exact .inl h
      · rcases List.mem_cons.1 hmem with rfl | hmem
        · exact absurd ht' ht
        · exact .inr ⟨t', hmem, ht'⟩

end ComposeContext

/-! ### What is left out -/

namespace Lines

/-- A value that no change adds does not come to stand after the first by `applyValue`. -/
theorem not_mem_tail_foldl {key v : String} {mutations : List HeaderMutation} {vs : List String}
    (hadd : ∀ k, sameName k key = true → HeaderMutation.add k v ∉ mutations)
    (hv : v ∉ vs.tail) : v ∉ (mutations.foldl (applyValue key) vs).tail := by
  induction mutations generalizing vs with
  | nil => exact hv
  | cons mutation rest ih =>
    rw [List.foldl_cons]
    refine ih (fun k hk hmem => hadd k hk (List.mem_cons_of_mem _ hmem)) ?_
    cases mutation with
    | add k w =>
      rw [applyValue]
      split
      · next hk =>
        have hne : v ≠ w := by
          rintro rfl
          exact hadd k hk (List.mem_cons_self ..)
        cases vs with
        | nil => simp
        | cons u us => simpa [hne] using hv
      · exact hv
    | delete k i =>
      rw [applyValue]
      split
      · -- what is left after the first stood there before
        intro hmem
        cases vs with
        | nil => simp at hmem
        | cons u us =>
          cases hi : i - 1 with
          | zero =>
            rw [hi, List.eraseIdx_cons_zero] at hmem
            exact hv (List.mem_of_mem_tail hmem)
          | succ j =>
            rw [hi, List.eraseIdx_cons_succ] at hmem
            exact hv (List.mem_of_mem_eraseIdx hmem)
      · exact hv

/-- Leaving out changes that are about other names does nothing to the values of a name under
`applyValue`. -/
theorem foldl_filter_other {key : String} {keep : HeaderMutation → Bool}
    {mutations : List HeaderMutation}
    (h : ∀ mutation ∈ mutations, keep mutation = false → sameName mutation.key key = false)
    (vs : List String) :
    (mutations.filter keep).foldl (applyValue key) vs = mutations.foldl (applyValue key) vs := by
  induction mutations generalizing vs with
  | nil => rfl
  | cons mutation rest ih =>
    have hrest := ih fun mutation hm => h mutation (List.mem_cons_of_mem _ hm)
    rw [List.filter_cons, List.foldl_cons]
    cases hk : keep mutation with
    | true => exact hrest _
    | false =>
      rw [applyValue_other (h mutation (List.mem_cons_self ..) hk)]
      exact hrest vs

end Lines

namespace Message

variable {m : Message} {v : String}

theorem hasAdded_of_none (h : m.synthesizedId = none) (mutation : HeaderMutation) :
    m.hasAdded mutation = false := by
  cases mutation <;> simp [hasAdded, h]

/-- What is left out because the message `hasAdded` it adds the Message-Id that the message has been
given. -/
theorem hasAdded_iff (h : m.synthesizedId = some v) (mutation : HeaderMutation) :
    m.hasAdded mutation = true ↔
      ∃ k, sameName k "Message-Id" = true ∧ mutation = .add k v := by
  cases mutation with
  | add k w =>
    constructor
    · intro hadded
      obtain ⟨hk, hw⟩ : sameName k "Message-Id" = true ∧ v = w := by simpa [hasAdded, h] using hadded
      exact ⟨k, hk, by rw [hw]⟩
    · rintro ⟨k', hk, heq⟩
      cases heq
      simp [hasAdded, h, hk]
  | delete k i => simp [hasAdded]

end Message

/-! ### Both copies -/

namespace ComposeContext

variable {ctx : ComposeContext} {l : Lines} {m : Message}

/-- The copies agree on all names but that of the Message-Id, which is the only one that `hasAdded`
leaves out. -/
theorem compose_agrees_other {v : String} {mutations : List HeaderMutation}
    (hl : m.lines = l.add "Message-Id" v) (hs : m.synthesizedId = some v) {name : String}
    (hname : sameName "Message-Id" name = false) :
    (l.applyAll mutations).values name
      = (m.lines.applyAll (mutations.filter fun change => !m.hasAdded change)).values name := by
  rw [values_applyAll, values_applyAll, foldl_filter_other, hl, add, values_append, values_cons,
    hname]
  · simp
  · intro mutation _ hkeep
    obtain ⟨k, hk, rfl⟩ := (m.hasAdded_iff hs mutation).1 (by simpa using hkeep)
    show sameName k name = false
    rw [sameName_congr_left hk]
    exact hname

/-- The filter's copy of the headers and the mail server's agree after the end of a message just if the
message came with a Message-Id, or no template `Yields` one. -/
theorem compose_agrees_iff (hm : m.CompletedFrom l) (hctx : ctx.message = m)
    (templates : List HeaderTemplate) :
    (∀ name, (l.applyAll (ctx.compose templates)).values name
      = (m.lines.applyAll
          ((ctx.compose templates).filter fun change => !m.hasAdded change)).values name) ↔
      l.values "Message-Id" ≠ [] ∨ ¬ ctx.Yields "Message-Id" templates := by
  rcases hm.lines with ⟨hv, hl, hs⟩ | ⟨hv, v, hl, hs⟩
  · -- the message came with a Message-Id, so nothing is left out
    have hall : (ctx.compose templates).filter (fun change => !m.hasAdded change)
        = ctx.compose templates := by
      refine List.filter_eq_self.2 fun mutation _ => ?_
      rw [Message.hasAdded_of_none hs]
      rfl
    refine iff_of_true (fun name => ?_) (.inl hv)
    rw [hall, hl]
  · -- it has got one from the filter: there it stands first, and the server is sent it last
    have hcompose : ctx.compose templates
        = templates.flatMap ctx.mutations ++ [.add "Message-Id" v] := by
      simp [compose, hctx, hs]
    have hserver : (l.applyAll (ctx.compose templates)).values "Message-Id"
        = (templates.flatMap ctx.mutations).foldl (applyValue "Message-Id") [] ++ [v] := by
      rw [values_applyAll, hcompose, List.foldl_append, hv]
      simp [applyValue]
    have hfilter : (m.lines.applyAll
          ((ctx.compose templates).filter fun change => !m.hasAdded change)).values "Message-Id"
        = ((templates.flatMap ctx.mutations).filter fun change => !m.hasAdded change).foldl
            (applyValue "Message-Id") [v] := by
      have hlast : m.hasAdded (.add "Message-Id" v) = true := by simp [Message.hasAdded, hs]
      rw [values_applyAll, hcompose, List.filter_append, List.foldl_append, hl, add, values_append,
        hv]
      simp [hlast, values_cons]
    constructor
    · intro hagree
      refine .inr fun hyields => ?_
      -- to the server the Message-Id comes after others, to the filter it never does
      have hne : (templates.flatMap ctx.mutations).foldl (applyValue "Message-Id") [] ≠ [] :=
        foldl_templates_ne_nil (.inr hyields)
      have hid := hagree "Message-Id"
      rw [hserver, hfilter] at hid
      have hout : v ∉ (((templates.flatMap ctx.mutations).filter fun change =>
          !m.hasAdded change).foldl (applyValue "Message-Id") [v]).tail := by
        refine not_mem_tail_foldl (fun k hk hmem => ?_) (by simp)
        have hkept := (List.mem_filter.1 hmem).2
        rw [(m.hasAdded_iff hs _).2 ⟨k, hk, rfl⟩] at hkept
        cases hkept
      rw [← hid, List.tail_append_of_ne_nil hne] at hout
      exact hout (List.mem_append_right _ (List.mem_singleton.2 rfl))
    · rintro (h | h)
      · exact absurd hv h
      · intro name
        cases hname : sameName "Message-Id" name with
        | false => exact compose_agrees_other hl hs hname
        | true =>
          rw [← values_congr hname, ← values_congr hname, hserver, hfilter,
            foldl_applyValue_other fun mutation hmem => key_of_not_yields h hmem,
            foldl_applyValue_other fun mutation hmem =>
              key_of_not_yields h (List.mem_filter.1 hmem).1]
          rfl

end ComposeContext

end MailFilter
