/-
The order in which results arrive.

The checks of a message end in any order. As long as collection does not stop, that order has no say in
the verdict: the results are put into the order of their modules before they are weighted and decided
on. Whether collection stops is up to running scores, so it may depend on the order if scores can be
negative; it does not for exact scores that cannot.

* `verdict_of_perm`: results that have all been collected have one verdict;
* `tripped_addAll_iff`: what stops collection is the sum of the scores of one disposition;
* `verdict_order_irrelevant`: the order of arrival and the verdict.
-/
import MailFilter.Proofs.Verdict.Exact
import MailFilter.Proofs.Verdict.Judging

namespace MailFilter

namespace Collection

/-! ### The verdict -/

/-- Results that have all been collected have one `verdict`, in whatever order they have arrived. -/
theorem verdict_of_perm {ρ : Type} [Score ρ] {scoring : Scoring ρ}
    {arrivals arrivals' : List (Nat × CheckResult ρ)} (hplaces : (arrivals.map Prod.fst).Nodup)
    (h : arrivals.Perm arrivals') (hall : (empty.addAll scoring arrivals).tripped = false)
    (hall' : (empty.addAll scoring arrivals').tripped = false) :
    (empty.addAll scoring arrivals).verdict scoring
      = (empty.addAll scoring arrivals').verdict scoring := by
  have hcollected := collected_addAll hall
  have hcollected' := collected_addAll hall'
  have hentries : (arrivals.map entry).map Prod.fst = arrivals.map Prod.fst := by
    rw [List.map_map]
    rfl
  have hresults : (empty.addAll scoring arrivals).results
      = (empty.addAll scoring arrivals').results := by
    refine results_of_perm ?_ ?_
    · rw [hcollected, show (empty : Collection ρ).collected = [] from rfl, List.nil_append, hentries]
      exact hplaces
    · rw [hcollected, hcollected']
      exact (h.map entry).append_left _
  rw [verdict, verdict, hresults, hall, hall']

/-! ### Exact scores -/

/-- What `arrivals` add to the `running` score of a disposition. -/
def total (action : Action) (arrivals : List (Nat × CheckResult Rat)) : Rat :=
  (arrivals.map fun a => if a.2.normalized.action = action then a.2.score else 0).sum

theorem total_cons (action : Action) (a : Nat × CheckResult Rat)
    (rest : List (Nat × CheckResult Rat)) :
    total action (a :: rest)
      = (if a.2.normalized.action = action then a.2.score else 0) + total action rest := by
  rw [total, List.map_cons, List.sum_cons]
  rfl

theorem total_perm (action : Action) {arrivals arrivals' : List (Nat × CheckResult Rat)}
    (h : arrivals.Perm arrivals') : total action arrivals = total action arrivals' :=
  (h.map _).sum_eq

theorem total_nonneg (action : Action) {arrivals : List (Nat × CheckResult Rat)}
    (h : ∀ a ∈ arrivals, 0 ≤ a.2.score) : 0 ≤ total action arrivals := by
  refine List.sum_nonneg fun x hx => ?_
  obtain ⟨a, ha, rfl⟩ := List.mem_map.1 hx
  split
  · exact h a ha
  · exact le_refl 0

/-- Exact scores that are not negative stop collection just if those of one disposition sum up to the
threshold, by `total`. -/
theorem tripped_addAll_iff {scoring : Scoring Rat} {c : Collection Rat}
    {arrivals : List (Nat × CheckResult Rat)} (hc : c.tripped = false)
    (hrunning : ∀ action, Verdict.reaches (c.running action) scoring.breakerThreshold = false)
    (hnonneg : ∀ a ∈ arrivals, 0 ≤ a.2.score) :
    (c.addAll scoring arrivals).tripped = true ↔
      ∃ action, Verdict.reaches (c.running action + total action arrivals)
        scoring.breakerThreshold = true := by
  induction arrivals generalizing c with
  | nil =>
    have hnone : ∀ action, c.running action + total action [] = c.running action := fun _ =>
      add_zero _
    simp [hc, hnone, hrunning]
  | cons a rest ih =>
    have hrest : ∀ b ∈ rest, 0 ≤ b.2.score := fun b hb => hnonneg b (List.mem_cons_of_mem _ hb)
    rw [addAll_cons, add_of_not_tripped hc]
    -- only the running score of the disposition that has arrived changes
    have hadd : ∀ action, c.running action + total action (a :: rest)
        = (if action = a.2.normalized.action
            then c.running a.2.normalized.action + a.2.score else c.running action)
          + total action rest := by
      intro action
      rw [total_cons]
      by_cases h : action = a.2.normalized.action
      · subst h
        rw [if_pos rfl, if_pos rfl, add_assoc]
      · rw [if_neg (Ne.symm h), if_neg h, zero_add]
    cases hstop : Verdict.reaches (c.running a.2.normalized.action + a.2.score)
        scoring.breakerThreshold with
    | true =>
      refine ⟨fun _ => ⟨a.2.normalized.action, ?_⟩, fun _ => ?_⟩
      · -- what is still to come does not take anything away
        obtain ⟨hpositive, hreached⟩ := Verdict.reaches_iff.1 hstop
        rw [hadd, if_pos rfl, Verdict.reaches_iff]
        exact ⟨hpositive, hreached.trans (le_add_of_nonneg_right (total_nonneg _ hrest))⟩
      · rw [addAll_of_tripped rfl]
    | false =>
      rw [ih rfl ?_ hrest]
      · simp only [hadd]
        exact Iff.rfl
      · intro action
        show Verdict.reaches (if action = a.2.normalized.action
          then c.running a.2.normalized.action + a.2.score else c.running action)
          scoring.breakerThreshold = false
        split
        · exact hstop
        · exact hrunning action

/-- For exact scores that are not negative, collection has `tripped` in every order of arrival or in
none. -/
theorem tripped_of_perm {scoring : Scoring Rat} {arrivals arrivals' : List (Nat × CheckResult Rat)}
    (h : arrivals.Perm arrivals') (hnonneg : ∀ a ∈ arrivals, 0 ≤ a.2.normalized.score) :
    (empty.addAll scoring arrivals).tripped = (empty.addAll scoring arrivals').tripped := by
  have hempty : ∀ action : Action,
      Verdict.reaches ((empty : Collection Rat).running action) scoring.breakerThreshold = false := by
    intro action
    rw [← Bool.not_eq_true, Verdict.reaches_iff]
    exact fun hreached => absurd hreached.1 (not_lt.2 hreached.2)
  rw [Bool.eq_iff_iff, tripped_addAll_iff rfl hempty hnonneg,
    tripped_addAll_iff rfl hempty fun a ha => hnonneg a (h.symm.subset ha)]
  simp only [total_perm _ h]

end Collection

/-! ### The order of arrival -/

/-- **The order in which results arrive has no say**, unless collection stops. Judging decides on what
arrives in the order in which it does; in any other order it would decide the same if collection stops
in neither. Exact scores that are not negative stop it in both orders or in none. -/
theorem verdict_order_irrelevant :
    (∀ {ρ : Type} [Score ρ] (scoring : Scoring ρ) (arrivals arrivals' : List (Nat × CheckResult ρ)),
      (arrivals.map Prod.fst).Nodup → arrivals.Perm arrivals' →
      (Collection.empty.addAll scoring arrivals).tripped = false →
      (Collection.empty.addAll scoring arrivals').tripped = false →
      (Collection.empty.addAll scoring arrivals).verdict scoring
        = (Collection.empty.addAll scoring arrivals').verdict scoring) ∧
    (∀ (scoring : Scoring Rat) (arrivals arrivals' : List (Nat × CheckResult Rat)),
      arrivals.Perm arrivals' → (∀ a ∈ arrivals, 0 ≤ a.2.normalized.score) →
      (Collection.empty.addAll scoring arrivals).tripped
        = (Collection.empty.addAll scoring arrivals').tripped) ∧
    (∀ {σ : Type} (j : Judging σ) (m : Metrics) (s : σ), (j.finish m s).1.verdict
      = (j.collection.addAll j.scoring (Judging.brought j.pending)).verdict j.scoring) :=
  ⟨fun _ _ _ hplaces h hall hall' => Collection.verdict_of_perm hplaces h hall hall',
    fun _ _ _ h hnonneg => Collection.tripped_of_perm h hnonneg, Judging.verdict_finish⟩

/-- Two results of one group, which are rescaled before they are decided on. -/
theorem verdict_order_irrelevant_grouped :
    let scoring : Scoring Rat :=
      { rejectThreshold := 10, tempfailThreshold := 4, breakerThreshold := 8, spamFlagThreshold := 0
        errorScore := 1, groups := [⟨"content", 2, [("rspamd", 3), ("rules", 1)]⟩] }
    let spam : CheckResult Rat :=
      { CheckResult.new .reject 3 with module := "rspamd", message := "Looks like spam" }
    let slow : CheckResult Rat :=
      { CheckResult.new .tempfail 2 with module := "rules", message := "Try later" }
    (Collection.empty.addAll scoring [(0, spam), (1, slow)]).tripped = false ∧
    (Collection.empty.addAll scoring [(1, slow), (0, spam)]).tripped = false ∧
    (Collection.empty.addAll scoring [(1, slow), (0, spam)]).verdict scoring
      = (Collection.empty.addAll scoring [(0, spam), (1, slow)]).verdict scoring ∧
    ((Collection.empty.addAll scoring [(0, spam), (1, slow)]).verdict scoring).message
      = "Try later" := by
  intro scoring spam slow
  have hswap : [((0 : Nat), spam), (1, slow)].Perm [(1, slow), (0, spam)] := .swap _ _ _
  have hall : (Collection.empty.addAll scoring [(0, spam), (1, slow)]).tripped = false := by
    decide +kernel
  have hall' := (verdict_order_irrelevant.2.1 scoring _ _ hswap (by decide +kernel)).symm.trans hall
  refine ⟨hall, hall',
    (verdict_order_irrelevant.1 scoring _ _ (by decide) hswap hall hall').symm, ?_⟩
  have hresults := Collection.results_of_pairwise
    (c := Collection.empty.addAll scoring [(0, spam), (1, slow)]) (by decide +kernel)
  rw [Collection.verdict, hresults]
  decide +kernel

end MailFilter
