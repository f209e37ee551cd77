/-
How groups redistribute their weights.

For exact scores, what a group rescales sums up to its weight times the mean score of what it rescales,
weighted by its members. This holds whatever happens to the other members: that a check has failed, has
abstained or has been rescaled before only leaves its weight to the others.

* `rescaledBy_eq`: what a group rescales, as it is after all groups;
* `sharedWeights_eq`: the weights among which a group shares its own are those of what it rescales;
* `sum_rescaledBy`: what a group rescales has its weight times the mean score;
* `perm_applyGroups`: the order of the results has no say;
* `groups_redistribute`: what groups make of results.
-/
import Mathlib.Algebra.BigOperators.Ring.List
import Mathlib.Data.List.Induction
import MailFilter.Proofs.Verdict.Exact
import MailFilter.Proofs.Verdict.Groups

namespace MailFilter

section

variable {ρ : Type} [Score ρ] {groups : List (ModuleGroup ρ)} {results : List (CheckResult ρ)}
  {r : CheckResult ρ} {g : ModuleGroup ρ} {i : Nat}

/-- What the group at the place `i` rescales, as it is after all groups. -/
def rescaledBy (groups : List (ModuleGroup ρ)) (results : List (CheckResult ρ)) (i : Nat) :
    List (CheckResult ρ) :=
  (applyGroups groups results).filter fun r => Rescales groups results i r

theorem rescaledBy_eq (groups : List (ModuleGroup ρ)) (results : List (CheckResult ρ)) (i : Nat) :
    rescaledBy groups results i = (results.filter fun r => Rescales groups results i r).map fun r =>
      { r with weightedScore := groupScore groups results i r } := by
  have hsame : (fun r => decide (Rescales groups results i r)) ∘ weighed groups results groups.length
      = fun r => decide (Rescales groups results i r) :=
    funext fun r => decide_eq_decide.2
      (rescales_of_unweighted (unweighted_weighed groups results groups.length r))
  rw [rescaledBy, applyGroups_eq, List.filter_map, hsame]
  refine List.map_congr_left fun r hr => ?_
  have h : Rescales groups results i r := of_decide_eq_true (List.mem_filter.1 hr).2
  exact weighed_of_rescales h h.lt_length

/-- But for their `weightedScore`, the results `rescaledBy` a group are as they were. -/
theorem map_rescaledBy {α : Type} (groups : List (ModuleGroup ρ)) (results : List (CheckResult ρ))
    (i : Nat) (f : CheckResult ρ → α) (hf : ∀ r x, f { r with weightedScore := x } = f r) :
    (rescaledBy groups results i).map f
      = (results.filter fun r => Rescales groups results i r).map f := by
  rw [rescaledBy_eq, List.map_map]
  exact List.map_congr_left fun r _ => hf r _

/-- Where a group rescales something it has weight to share: its `total` is positive. -/
theorem shares_of_rescales (hi : groups[i]? = some g) (hr : r ∈ results)
    (h : Rescales groups results i r) :
    Score.le (g.total (marked (groups.take i) results) results) Score.zero = false := by
  obtain ⟨g', hg', -, hshares⟩ := ((rescales_iff hr).1 h).2.1
  obtain rfl := Option.some.inj (hi.symm.trans hg')
  exact hshares

/-- The weight among which a group shares its own, in `sharedWeights`, is that of the results which it
rescales. -/
theorem sharedWeights_eq (hi : groups[i]? = some g)
    (hshares : Score.le (g.total (marked (groups.take i) results) results) Score.zero = false) :
    g.sharedWeights (marked (groups.take i) results) results
      = (results.filter fun r => Rescales groups results i r).map g.weightIn := by
  have hfilter : (results.filter fun r =>
        g.claims (marked (groups.take i) results) r && r.action != .error)
      = results.filter fun r => Rescales groups results i r := by
    refine List.filter_congr fun r hr => ?_
    rw [Bool.eq_iff_iff, decide_eq_true_iff, Bool.and_eq_true, ModuleGroup.claims_iff, bne_iff_ne,
      Rescales, take_succ_of_getElem? hi, marked_concat, ModuleGroup.mem_apply]
    constructor
    · rintro ⟨⟨hlists, hnot⟩, herror⟩
      exact ⟨herror, hnot, .inr ⟨hshares, hlists, r, hr, rfl⟩⟩
    · rintro ⟨herror, hnot, hmem | ⟨-, hlists, -⟩⟩
      · exact absurd hmem hnot
      · exact ⟨⟨hlists, hnot⟩, herror⟩
  rw [ModuleGroup.sharedWeights, ← hfilter]
  refine List.filterMap_eq_map_iff_forall_eq_some.2 fun r hr => ?_
  have hclaims := (List.mem_filter.1 hr).2
  rw [Bool.and_eq_true, ModuleGroup.claims_iff] at hclaims
  obtain ⟨w, hw⟩ := Option.isSome_iff_exists.1 hclaims.1.1
  rw [ModuleGroup.weightIn, hw, Option.getD_some]

end

/-! ### Exact scores -/

namespace ModuleGroup

/-- The mean score of results, weighted by the group `g`. -/
def mean (g : ModuleGroup Rat) (results : List (CheckResult Rat)) : Rat :=
  (results.map fun r => g.weightIn r * r.score).sum / (results.map g.weightIn).sum

/-- A weighted `mean` lies between the bounds of what it is taken of. -/
theorem mean_between {g : ModuleGroup Rat} {results : List (CheckResult Rat)} {lo hi : Rat}
    (hweights : ∀ r ∈ results, 0 ≤ g.weightIn r) (htotal : 0 < (results.map g.weightIn).sum)
    (hbounds : ∀ r ∈ results, lo ≤ r.score ∧ r.score ≤ hi) :
    lo ≤ g.mean results ∧ g.mean results ≤ hi := by
  constructor
  · rw [mean, le_div_iff₀ htotal, mul_comm, ← List.sum_map_mul_right]
    exact List.sum_le_sum fun r hr =>
      mul_le_mul_of_nonneg_left (hbounds r hr).1 (hweights r hr)
  · rw [mean, div_le_iff₀ htotal, mul_comm, ← List.sum_map_mul_right]
    exact List.sum_le_sum fun r hr =>
      mul_le_mul_of_nonneg_left (hbounds r hr).2 (hweights r hr)

theorem weightIn_nonneg {g : ModuleGroup Rat} (hmembers : ∀ m ∈ g.members, 0 ≤ m.2)
    (r : CheckResult Rat) : 0 ≤ g.weightIn r := by
  rw [weightIn]
  cases hw : g.weightOf r.module with
  | none => exact le_refl 0
  | some w => exact hmembers _ (Fields.mem_of_find? hw)

end ModuleGroup

section

variable {groups : List (ModuleGroup Rat)} {results results' : List (CheckResult Rat)}
  {g : ModuleGroup Rat} {i : Nat}

/-- What is `rescaledBy` a group sums up to the weight of the group times their `mean` score. -/
theorem sum_rescaledBy (hi : groups[i]? = some g)
    (hshares : Score.le (g.total (marked (groups.take i) results) results) Score.zero = false) :
    0 < ((rescaledBy groups results i).map g.weightIn).sum ∧
    ((rescaledBy groups results i).map (·.weightedScore)).sum
      = g.weight * g.mean (rescaledBy groups results i) := by
  have htotal : g.total (marked (groups.take i) results) results
      = ((rescaledBy groups results i).map g.weightIn).sum := by
    rw [ModuleGroup.total, sharedWeights_eq hi hshares, Score.sum_eq,
      map_rescaledBy groups results i g.weightIn fun _ _ => rfl]
  have hgroup : ∀ r, groupScore groups results i r = g.weightIn r * r.score
      * (g.weight / ((rescaledBy groups results i).map g.weightIn).sum) := by
    intro r
    rw [groupScore, hi, ← htotal, mul_comm (g.weightIn r)]
    rfl
  have hweighted : (rescaledBy groups results i).map (·.weightedScore)
      = (results.filter fun r => Rescales groups results i r).map fun r => g.weightIn r * r.score
          * (g.weight / ((rescaledBy groups results i).map g.weightIn).sum) := by
    rw [rescaledBy_eq, List.map_map, ← rescaledBy_eq]
    exact List.map_congr_left fun r _ => hgroup r
  refine ⟨htotal ▸ Score.le_zero_eq_false.1 hshares, ?_⟩
  calc ((rescaledBy groups results i).map (·.weightedScore)).sum
      = ((rescaledBy groups results i).map fun r => g.weightIn r * r.score).sum
          * (g.weight / ((rescaledBy groups results i).map g.weightIn).sum) := by
        rw [hweighted, List.sum_map_mul_right,
          map_rescaledBy groups results i (fun r => g.weightIn r * r.score) fun _ _ => rfl]
    _ = g.weight * g.mean (rescaledBy groups results i) := by
        rw [ModuleGroup.mean, mul_div, mul_div, mul_comm]

/-! ### The order of the results -/

theorem ModuleGroup.total_perm (h : results.Perm results') {done done' : List String}
    (hdone : ∀ module, module ∈ done ↔ module ∈ done') (g : ModuleGroup Rat) :
    g.total done results = g.total done' results' := by
  have hclaims : ∀ r, g.claims done r = g.claims done' r := fun r => by
    rw [Bool.eq_iff_iff, ModuleGroup.claims_iff, ModuleGroup.claims_iff, hdone]
  rw [ModuleGroup.total, ModuleGroup.total, Score.sum_eq, Score.sum_eq, ModuleGroup.sharedWeights,
    ModuleGroup.sharedWeights]
  simp only [hclaims]
  exact ((h.filter _).filterMap _).sum_eq

theorem mem_marked_perm (h : results.Perm results') (groups : List (ModuleGroup Rat))
    (module : String) : module ∈ marked groups results ↔ module ∈ marked groups results' := by
  induction groups using List.reverseRecOn generalizing module with
  | nil => exact Iff.rfl
  | append_singleton groups g ih =>
    rw [marked_concat, marked_concat, ModuleGroup.mem_apply, ModuleGroup.mem_apply, ih,
      ModuleGroup.total_perm h ih g]
    simp only [h.mem_iff]

theorem rescales_perm (h : results.Perm results') (i : Nat) (r : CheckResult Rat) :
    Rescales groups results i r ↔ Rescales groups results' i r := by
  rw [Rescales, Rescales, mem_marked_perm h, mem_marked_perm h]

theorem groupScore_perm (h : results.Perm results') (i : Nat) (r : CheckResult Rat) :
    groupScore groups results i r = groupScore groups results' i r := by
  rw [groupScore, groupScore]
  cases groups[i]? with
  | none => rfl
  | some g =>
    dsimp only
    rw [ModuleGroup.total_perm h (mem_marked_perm h _) g]

theorem weighed_perm (h : results.Perm results') (k : Nat) (r : CheckResult Rat) :
    weighed groups results k r = weighed groups results' k r := by
  induction k with
  | zero => rfl
  | succ k ih =>
    rw [weighed, weighed, ih, groupScore_perm h]
    exact if_congr (rescales_perm h k r) rfl rfl

/-- Groups make the same of results in any order: `applyGroups` respects a permutation. -/
theorem perm_applyGroups (h : results.Perm results') (groups : List (ModuleGroup Rat)) :
    (applyGroups groups results).Perm (applyGroups groups results') := by
  rw [applyGroups_eq, applyGroups_eq, List.map_congr_left fun r _ => weighed_perm h groups.length r]
  exact h.map _

/-! ### What groups make of results -/

/-- **Groups redistribute their weights.** Groups change nothing of results but their weighted scores;
each group rescales some results, and no two of them the same. What a group rescales sums up to its
weight times the mean score of them, weighted by its members, and so lies between its weight times the
smallest and times the largest of their scores. Failures, and what no group rescales, keep their scores.
The order of the results has no say. -/
theorem groups_redistribute (hstart : ∀ r ∈ results, r.weightedScore = r.score)
    (hweights : ∀ g ∈ groups, 0 ≤ g.weight ∧ ∀ m ∈ g.members, 0 ≤ m.2) :
    (applyGroups groups results).map CheckResult.unweighted = results.map CheckResult.unweighted ∧
    (∀ i, applyGroups (groups.take (i + 1)) results
      = (applyGroups (groups.take i) results).map fun r =>
        if Rescales groups results i r then
          { r with weightedScore := groupScore groups results i r }
        else r) ∧
    (∀ r i j, Rescales groups results i r → Rescales groups results j r → i = j) ∧
    (∀ i g, groups[i]? = some g → rescaledBy groups results i ≠ [] →
      0 < ((rescaledBy groups results i).map g.weightIn).sum ∧
      ((rescaledBy groups results i).map (·.weightedScore)).sum
        = g.weight * g.mean (rescaledBy groups results i) ∧
      ∀ lo hi, (∀ r ∈ rescaledBy groups results i, lo ≤ r.score ∧ r.score ≤ hi) →
        g.weight * lo ≤ ((rescaledBy groups results i).map (·.weightedScore)).sum ∧
        ((rescaledBy groups results i).map (·.weightedScore)).sum ≤ g.weight * hi) ∧
    (∀ r ∈ applyGroups groups results,
      r.action = .error ∨ (∀ i, ¬ Rescales groups results i r) → r.weightedScore = r.score) ∧
    (∀ results', results.Perm results' →
      (applyGroups groups results).Perm (applyGroups groups results')) := by
  refine ⟨unweighted_applyGroups .., applyGroups_take_succ _ _, fun r i j => Rescales.unique,
    fun i g hi hne => ?_, fun r hr hkeeps => ?_, fun _ h => perm_applyGroups h groups⟩
  · obtain ⟨hweight, hmembers⟩ := hweights g (List.mem_of_getElem? hi)
    -- a group that rescales something has weight to share, so the mean is one of a positive weight
    have hshares : Score.le (g.total (marked (groups.take i) results) results) Score.zero = false := by
      rw [rescaledBy_eq] at hne
      obtain ⟨r, hr⟩ := List.exists_mem_of_ne_nil _ (mt List.map_eq_nil_iff.2 hne)
      obtain ⟨hr, h⟩ := List.mem_filter.1 hr
      exact shares_of_rescales hi hr (of_decide_eq_true h)
    obtain ⟨htotal, hsum⟩ := sum_rescaledBy hi hshares
    refine ⟨htotal, hsum, fun lo hi hbounds => ?_⟩
    obtain ⟨hlo, hhi⟩ := ModuleGroup.mean_between
      (fun r _ => ModuleGroup.weightIn_nonneg hmembers r) htotal hbounds
    rw [hsum]
    exact ⟨mul_le_mul_of_nonneg_left hlo hweight, mul_le_mul_of_nonneg_left hhi hweight⟩
  · rw [applyGroups_eq] at hr
    obtain ⟨r₀, hr₀, rfl⟩ := List.mem_map.1 hr
    have hsame := unweighted_weighed groups results groups.length r₀
    have hnot : ∀ i, ¬ Rescales groups results i r₀ := by
      intro i h
      rw [← rescales_of_unweighted hsame] at h
      exact hkeeps.elim h.1 fun hnone => hnone i h
    rw [weighed_eq_self fun i _ => hnot i]
    exact hstart r₀ hr₀

/-- Two groups that share a member. One check has failed, and the other member of both groups is taken by
the first of them. -/
theorem groups_redistribute_overlapping :
    let results : List (CheckResult Rat) :=
      [{ CheckResult.new .reject 4 with module := "rspamd" },
        { CheckResult.new .reject 2 with module := "rules" },
        { CheckResult.new .error 25 with module := "quotas" },
        { CheckResult.new .tempfail 5 with module := "greylist" }]
    let groups : List (ModuleGroup Rat) :=
      [⟨"content", 2, [("quotas", 4), ("rspamd", 3), ("rules", 1)]⟩,
        ⟨"local", 3, [("greylist", 2), ("rules", 1)]⟩]
    (∀ r ∈ results, r.weightedScore = r.score) ∧
    (∀ g ∈ groups, 0 ≤ g.weight ∧ ∀ m ∈ g.members, 0 ≤ m.2) ∧
    ((rescaledBy groups results 0).map (·.module) = ["rspamd", "rules"]) ∧
    ((rescaledBy groups results 0).map (·.weightedScore)).sum = 2 * ((3 * 4 + 1 * 2) / (3 + 1)) ∧
    ((rescaledBy groups results 1).map (·.weightedScore)).sum = 3 * 5 := by
  intro results groups
  have hstart : ∀ r ∈ results, r.weightedScore = r.score := by decide +kernel
  have hweights : ∀ g ∈ groups, 0 ≤ g.weight ∧ ∀ m ∈ g.members, 0 ≤ m.2 := by decide +kernel
  obtain ⟨-, -, -, hsum, -⟩ := groups_redistribute hstart hweights
  refine ⟨hstart, hweights, by decide +kernel, ?_, ?_⟩
  · rw [(hsum 0 _ rfl (by decide +kernel)).2.1]
    decide +kernel
  · rw [(hsum 1 _ rfl (by decide +kernel)).2.1]
    decide +kernel

end

end MailFilter
