/-
Groups of modules, one after the other.

A group that has weight to share marks the modules of all the results that it lists and that have not
been marked before, and rescales those results that are no failures. A group without weight to share is
passed over: it marks nothing, and what it lists is left to the groups after it.

* `mem_marked_iff`: the modules of results that have been marked;
* `rescales_iff`: what rescales a result is the first group that lists it and has weight to share;
* `applyGroups_take_succ`: what one group makes of the results;
* `applyGroups_take`: what becomes of each result;
* `first_group_weighs_iff`: when it is the first group listing a module that its result is weighted by.
-/
import MailFilter.Proofs.Verdict.Accounts

namespace MailFilter

theorem take_succ_of_getElem? {α : Type} {l : List α} {x : α} {i : Nat} (hi : l[i]? = some x) :
    l.take (i + 1) = l.take i ++ [x] := by
  rw [List.take_add_one, hi]
  rfl

theorem take_succ_of_none {α : Type} {l : List α} {i : Nat} (hi : l[i]? = none) :
    l.take (i + 1) = l.take i := by
  rw [List.take_add_one, hi]
  exact List.append_nil _

variable {ρ : Type}

/-! ### One group -/

namespace ModuleGroup

theorem claims_iff {g : ModuleGroup ρ} {done : List String} {r : CheckResult ρ} :
    g.claims done r = true ↔ (g.weightOf r.module).isSome = true ∧ r.module ∉ done := by
  rw [claims, Bool.and_eq_true, Bool.not_eq_true', ← Bool.not_eq_true, List.contains_iff_mem]

variable [Score ρ] {g : ModuleGroup ρ} {done : List String} {results : List (CheckResult ρ)}

/-- The weight among which the group `g` shares its own: that of the results that it `claims`, failures
apart. -/
def total (g : ModuleGroup ρ) (done : List String) (results : List (CheckResult ρ)) : ρ :=
  Score.sum (g.sharedWeights done results)

/-- The weight of a result within a group; it is zero if the group does not list its module. -/
def weightIn (g : ModuleGroup ρ) (r : CheckResult ρ) : ρ :=
  (g.weightOf r.module).getD Score.zero

/-- A score with the weight of a group, where `total` is the weight that it shares. -/
def weigh (g : ModuleGroup ρ) (total : ρ) (r : CheckResult ρ) : ρ :=
  Score.mul (Score.mul r.score (g.weightIn r)) (Score.div g.weight total)

theorem apply_eq (g : ModuleGroup ρ) (done : List String) (results : List (CheckResult ρ)) :
    g.apply done results
      = if (results.filter (g.claims done)).isEmpty || Score.le (g.total done results) Score.zero then
          (done, results)
        else (done ++ (results.filter (g.claims done)).map (·.module),
          results.map (g.rescale done (Score.div g.weight (g.total done results)))) :=
  rfl

/-- A group with weight to share, so with a positive `total`, marks the modules that it lists and that
have a result. -/
theorem mem_apply {module : String} :
    module ∈ (g.apply done results).1 ↔ module ∈ done ∨
      Score.le (g.total done results) Score.zero = false ∧ (g.weightOf module).isSome = true ∧
        ∃ r ∈ results, r.module = module := by
  rw [apply_eq]
  split
  · next hskip =>
    refine ⟨.inl, fun h => h.elim id ?_⟩
    rintro ⟨hshares, hlists, r, hr, rfl⟩
    by_contra hnot
    have hempty : results.filter (g.claims done) = [] := by simpa [hshares] using hskip
    exact List.filter_eq_nil_iff.1 hempty r hr (claims_iff.2 ⟨hlists, hnot⟩)
  · next hact =>
    have hshares : Score.le (g.total done results) Score.zero = false := by simp_all
    rw [List.mem_append, List.mem_map]
    constructor
    · rintro (hdone | ⟨r, hr, rfl⟩)
      · exact .inl hdone
      · obtain ⟨hr, hclaims⟩ := List.mem_filter.1 hr
        exact .inr ⟨hshares, (claims_iff.1 hclaims).1, r, hr, rfl⟩
    · rintro (hdone | ⟨-, hlists, r, hr, rfl⟩)
      · exact .inl hdone
      · by_cases hdone : r.module ∈ done
        · exact .inl hdone
        · exact .inr ⟨r, List.mem_filter.2 ⟨hr, claims_iff.2 ⟨hlists, hdone⟩⟩, rfl⟩

/-- A group rescales by `weigh` the results whose modules it marks, but for failures. -/
theorem apply_snd (g : ModuleGroup ρ) (done : List String) (results : List (CheckResult ρ)) :
    (g.apply done results).2 = results.map fun r =>
      if r.action ≠ .error ∧ r.module ∉ done ∧ r.module ∈ (g.apply done results).1 then
        { r with weightedScore := g.weigh (g.total done results) r }
      else r := by
  by_cases hskip : ((results.filter (g.claims done)).isEmpty
      || Score.le (g.total done results) Score.zero) = true
  · have happly : g.apply done results = (done, results) := by rw [apply_eq, if_pos hskip]
    rw [happly, List.map_congr_left fun r _ => if_neg fun h => h.2.1 h.2.2, List.map_id']
  · have happly : (g.apply done results).2
        = results.map (g.rescale done (Score.div g.weight (g.total done results))) := by
      rw [apply_eq, if_neg hskip]
    have hshares : Score.le (g.total done results) Score.zero = false := by simp_all
    rw [happly]
    refine List.map_congr_left fun r hr => ?_
    rw [rescale]
    cases hw : g.weightOf r.module with
    | none =>
      refine (if_neg fun h => ?_).symm
      obtain ⟨-, hdone, hmem⟩ := h
      rcases mem_apply.1 hmem with hmem | ⟨-, hlists, -⟩
      · exact hdone hmem
      · rw [hw] at hlists
        cases hlists
    | some w =>
      have hlists : (g.weightOf r.module).isSome = true := by rw [hw]; rfl
      have hiff : (g.claims done r && r.action != .error) = true ↔
          r.action ≠ .error ∧ r.module ∉ done ∧ r.module ∈ (g.apply done results).1 := by
        rw [Bool.and_eq_true, claims_iff, and_iff_right hlists, bne_iff_ne, and_comm,
          and_congr_right_iff]
        exact fun _ => ⟨fun h => ⟨h, mem_apply.2 (.inr ⟨hshares, hlists, r, hr, rfl⟩)⟩, And.left⟩
      simp only [hiff, weigh, weightIn, hw, Option.getD_some]

/-- What has been rescaled has no say in what a group marks, nor in its `total`. -/
theorem total_unweighted (g : ModuleGroup ρ) (done : List String) (results : List (CheckResult ρ)) :
    g.total done (results.map CheckResult.unweighted) = g.total done results := by
  rw [total, total, sharedWeights, sharedWeights, List.filter_map, List.filterMap_map]
  rfl

theorem apply_fst_unweighted (g : ModuleGroup ρ) (done : List String)
    (results : List (CheckResult ρ)) :
    (g.apply done (results.map CheckResult.unweighted)).1 = (g.apply done results).1 := by
  have hclaimed : (results.map CheckResult.unweighted).filter (g.claims done)
      = (results.filter (g.claims done)).map CheckResult.unweighted := List.filter_map
  rw [apply_eq, apply_eq, total_unweighted, hclaimed, List.isEmpty_map, List.map_map]
  split <;> rfl

end ModuleGroup

/-! ### Groups in a row -/

variable [Score ρ]

/-- What groups mark and make of results, one after the other with `ModuleGroup.apply`. -/
def throughGroups (groups : List (ModuleGroup ρ)) (results : List (CheckResult ρ)) :
    List String × List (CheckResult ρ) :=
  groups.foldl (fun s g => g.apply s.1 s.2) ([], results)

/-- The modules that groups mark, by `throughGroups`. -/
def marked (groups : List (ModuleGroup ρ)) (results : List (CheckResult ρ)) : List String :=
  (throughGroups groups results).1

theorem applyGroupsFrom_eq (done : List String) (results : List (CheckResult ρ))
    (groups : List (ModuleGroup ρ)) :
    applyGroupsFrom done results groups
      = (groups.foldl (fun s g => g.apply s.1 s.2) (done, results)).2 := by
  induction groups generalizing done results with
  | nil => rfl
  | cons g gs ih => exact ih _ _

theorem throughGroups_snd (groups : List (ModuleGroup ρ)) (results : List (CheckResult ρ)) :
    (throughGroups groups results).2 = applyGroups groups results :=
  (applyGroupsFrom_eq ..).symm

variable {groups : List (ModuleGroup ρ)} {results : List (CheckResult ρ)} {r : CheckResult ρ}
  {g : ModuleGroup ρ} {i j k : Nat}

theorem throughGroups_concat (groups : List (ModuleGroup ρ)) (g : ModuleGroup ρ)
    (results : List (CheckResult ρ)) :
    throughGroups (groups ++ [g]) results
      = g.apply (marked groups results) (applyGroups groups results) := by
  rw [throughGroups, List.foldl_append, ← throughGroups, ← throughGroups_snd]
  rfl

theorem unweighted_applyGroups (groups : List (ModuleGroup ρ)) (results : List (CheckResult ρ)) :
    (applyGroups groups results).map CheckResult.unweighted = results.map CheckResult.unweighted :=
  unweighted_applyGroupsFrom ..

theorem marked_concat (groups : List (ModuleGroup ρ)) (g : ModuleGroup ρ)
    (results : List (CheckResult ρ)) :
    marked (groups ++ [g]) results = (g.apply (marked groups results) results).1 := by
  rw [marked, throughGroups_concat, ← ModuleGroup.apply_fst_unweighted, unweighted_applyGroups,
    ModuleGroup.apply_fst_unweighted]

/-- Whether the group at the place `i` rescales a result: it is no failure, and the group is the one by
which its module is `marked`. -/
def Rescales (groups : List (ModuleGroup ρ)) (results : List (CheckResult ρ)) (i : Nat)
    (r : CheckResult ρ) : Prop :=
  r.action ≠ .error ∧ r.module ∉ marked (groups.take i) results ∧
    r.module ∈ marked (groups.take (i + 1)) results

instance (groups : List (ModuleGroup ρ)) (results : List (CheckResult ρ)) (i : Nat) :
    DecidablePred (Rescales groups results i) := fun _ =>
  inferInstanceAs (Decidable (_ ∧ _ ∧ _))

/-- Whether the group at the place `i` lists a module and has weight to share when it comes to it. -/
def Shares (groups : List (ModuleGroup ρ)) (results : List (CheckResult ρ)) (i : Nat)
    (module : String) : Prop :=
  ∃ g, groups[i]? = some g ∧ (g.weightOf module).isSome = true ∧
    Score.le (g.total (marked (groups.take i) results) results) Score.zero = false

/-- The score of a result with the weight of the group at the place `i`, by `weigh`. -/
def groupScore (groups : List (ModuleGroup ρ)) (results : List (CheckResult ρ)) (i : Nat)
    (r : CheckResult ρ) : ρ :=
  match groups[i]? with
  | some g => g.weigh (g.total (marked (groups.take i) results) results) r
  | none => r.score

/-- The modules of results that have been `marked` are those that a group `Shares` its weight among. -/
theorem mem_marked_iff (hr : r ∈ results) :
    r.module ∈ marked (groups.take k) results ↔ ∃ j < k, Shares groups results j r.module := by
  induction k with
  | zero =>
    refine iff_of_false ?_ fun ⟨j, hj, _⟩ => absurd hj (Nat.not_lt_zero j)
    rw [List.take_zero]
    exact List.not_mem_nil
  | succ k ih =>
    rw [Nat.exists_lt_succ_right, ← ih]
    cases hk : groups[k]? with
    | none =>
      rw [take_succ_of_none hk]
      exact (or_iff_left fun ⟨g, hg, _⟩ => by rw [hk] at hg; cases hg).symm
    | some g =>
      rw [take_succ_of_getElem? hk, marked_concat, ModuleGroup.mem_apply]
      refine or_congr_right ⟨fun ⟨hshares, hlists, _⟩ => ⟨g, hk, hlists, hshares⟩, ?_⟩
      rintro ⟨g', hg', hlists, hshares⟩
      obtain rfl := Option.some.inj (hk.symm.trans hg')
      exact ⟨hshares, hlists, r, hr, rfl⟩

/-- A result is rescaled by the first group that `Shares` its weight with the module. -/
theorem rescales_iff (hr : r ∈ results) :
    Rescales groups results i r ↔ r.action ≠ .error ∧ Shares groups results i r.module ∧
      ∀ j < i, ¬ Shares groups results j r.module := by
  rw [Rescales, mem_marked_iff hr, mem_marked_iff hr]
  refine and_congr_right fun _ => ⟨?_, ?_⟩
  · rintro ⟨hnone, j, hj, hshares⟩
    rcases Nat.lt_succ_iff_lt_or_eq.1 hj with hj | rfl
    · exact absurd ⟨j, hj, hshares⟩ hnone
    · exact ⟨hshares, fun j' hj' h => hnone ⟨j', hj', h⟩⟩
  · rintro ⟨hshares, hfirst⟩
    exact ⟨fun ⟨j, hj, h⟩ => hfirst j hj h, i, Nat.lt_succ_self i, hshares⟩

theorem marked_mono (h : i ≤ j) {module : String} (hm : module ∈ marked (groups.take i) results) :
    module ∈ marked (groups.take j) results := by
  induction h with
  | refl => exact hm
  | step _ ih =>
    rename_i j _
    cases hj : groups[j]? with
    | none => rwa [take_succ_of_none hj]
    | some g =>
      rw [take_succ_of_getElem? hj, marked_concat]
      exact ModuleGroup.mem_apply.2 (.inl ih)

/-- No result is one that two groups `Rescales`: the first has marked its module. -/
theorem Rescales.unique (hi : Rescales groups results i r) (hj : Rescales groups results j r) :
    i = j := by
  rcases Nat.lt_trichotomy i j with hlt | heq | hgt
  · exact absurd (marked_mono hlt hi.2.2) hj.2.1
  · exact heq
  · exact absurd (marked_mono hgt hj.2.2) hi.2.1

/-- The group at the place `k` rescales the results that it `Rescales`, and leaves the others as they
are. -/
theorem applyGroups_take_succ (groups : List (ModuleGroup ρ)) (results : List (CheckResult ρ))
    (i : Nat) :
    applyGroups (groups.take (i + 1)) results = (applyGroups (groups.take i) results).map fun r =>
      if Rescales groups results i r then
        { r with weightedScore := groupScore groups results i r }
      else r := by
  cases hi : groups[i]? with
  | none =>
    have hnone : ∀ r, ¬ Rescales groups results i r := fun r h => by
      rw [Rescales, take_succ_of_none hi] at h
      exact h.2.1 h.2.2
    rw [take_succ_of_none hi, List.map_congr_left fun r _ => if_neg (hnone r), List.map_id']
  | some g =>
    have htotal : g.total (marked (groups.take i) results) (applyGroups (groups.take i) results)
        = g.total (marked (groups.take i) results) results := by
      rw [← ModuleGroup.total_unweighted, unweighted_applyGroups, ModuleGroup.total_unweighted]
    have hmarked : (g.apply (marked (groups.take i) results) (applyGroups (groups.take i) results)).1
        = marked (groups.take (i + 1)) results := by
      rw [take_succ_of_getElem? hi, ← throughGroups_concat]
      rfl
    rw [take_succ_of_getElem? hi, ← throughGroups_snd, throughGroups_concat, ModuleGroup.apply_snd,
      htotal, hmarked]
    simp only [Rescales, groupScore, hi]

/-- What the first `k` groups make of a result. -/
def weighed (groups : List (ModuleGroup ρ)) (results : List (CheckResult ρ)) :
    Nat → CheckResult ρ → CheckResult ρ
  | 0, r => r
  | k + 1, r =>
    if Rescales groups results k r then
      { weighed groups results k r with weightedScore := groupScore groups results k r }
    else weighed groups results k r

theorem unweighted_weighed (groups : List (ModuleGroup ρ)) (results : List (CheckResult ρ)) (k : Nat)
    (r : CheckResult ρ) : (weighed groups results k r).unweighted = r.unweighted := by
  induction k with
  | zero => rfl
  | succ k ih =>
    rw [weighed]
    split <;> exact ih

/-- What a group `Rescales`, and to what, does not depend on what has been rescaled. -/
theorem rescales_of_unweighted {r' : CheckResult ρ} (h : r.unweighted = r'.unweighted) :
    Rescales groups results i r ↔ Rescales groups results i r' := by
  have haction : r.action = r'.action := (congrArg CheckResult.action h :)
  have hmodule : r.module = r'.module := (congrArg CheckResult.module h :)
  rw [Rescales, Rescales, haction, hmodule]

theorem groupScore_of_unweighted {r' : CheckResult ρ} (h : r.unweighted = r'.unweighted) :
    groupScore groups results i r = groupScore groups results i r' := by
  have hscore : r.score = r'.score := (congrArg CheckResult.score h :)
  have hmodule : r.module = r'.module := (congrArg CheckResult.module h :)
  rw [groupScore, groupScore]
  cases groups[i]? with
  | none => exact hscore
  | some g => simp only [ModuleGroup.weigh, ModuleGroup.weightIn, hscore, hmodule]

/-- **What becomes of each result** when groups are applied one after the other: it is `weighed`. -/
theorem applyGroups_take (groups : List (ModuleGroup ρ)) (results : List (CheckResult ρ)) (k : Nat) :
    applyGroups (groups.take k) results = results.map (weighed groups results k) := by
  induction k with
  | zero => exact (List.map_id' _).symm
  | succ k ih =>
    rw [applyGroups_take_succ, ih, List.map_map]
    refine List.map_congr_left fun r _ => ?_
    have hsame := unweighted_weighed groups results k r
    simp only [Function.comp_apply, rescales_of_unweighted hsame, groupScore_of_unweighted hsame]
    rfl

theorem applyGroups_eq (groups : List (ModuleGroup ρ)) (results : List (CheckResult ρ)) :
    applyGroups groups results = results.map (weighed groups results groups.length) := by
  rw [← applyGroups_take, List.take_length]

/-- Groups from the place `i` on that do not rescale a result leave it as it is. -/
theorem weighed_of_not (h : i ≤ k) (hnot : ∀ j, i ≤ j → j < k → ¬ Rescales groups results j r) :
    weighed groups results k r = weighed groups results i r := by
  induction h with
  | refl => rfl
  | step hik ih =>
    rw [weighed, if_neg (hnot _ hik (Nat.lt_succ_self _))]
    exact ih fun j hj hjk => hnot j hj (Nat.lt_succ_of_lt hjk)

theorem weighed_eq_self (hnot : ∀ j < k, ¬ Rescales groups results j r) :
    weighed groups results k r = r :=
  weighed_of_not (Nat.zero_le k) fun j _ hj => hnot j hj

/-- The one group that `Rescales` a result gives it its `groupScore`. -/
theorem weighed_of_rescales (h : Rescales groups results i r) (hik : i < k) :
    weighed groups results k r = { r with weightedScore := groupScore groups results i r } := by
  have hbefore : weighed groups results i r = r :=
    weighed_eq_self fun j hj hj' => Nat.ne_of_lt hj (hj'.unique h)
  rw [weighed_of_not hik fun j hj _ hj' => Nat.ne_of_gt hj (hj'.unique h), weighed, if_pos h, hbefore]

theorem Rescales.lt_length (h : Rescales groups results i r) : i < groups.length := by
  by_contra hnot
  have hnone : groups[i]? = none := List.getElem?_eq_none (Nat.le_of_not_lt hnot)
  rw [Rescales, take_succ_of_none hnone] at h
  exact h.2.1 h.2.2

/-! ### The first group -/

/-- A result keeps the score that the first `i` groups have given it just if no later group gives it
another one. -/
theorem weighed_eq_iff (hik : i ≤ k) (hr : weighed groups results i r = r) :
    weighed groups results k r = weighed groups results i r ↔
      ∀ j, i ≤ j → j < k → Rescales groups results j r →
        groupScore groups results j r = r.weightedScore := by
  constructor
  · intro heq j hj hjk h
    rw [weighed_of_rescales h hjk, hr] at heq
    exact congrArg CheckResult.weightedScore heq
  · intro hsame
    by_cases hex : ∃ j, i ≤ j ∧ j < k ∧ Rescales groups results j r
    · obtain ⟨j, hj, hjk, h⟩ := hex
      rw [weighed_of_rescales h hjk, hr, hsame j hj hjk h]
    · exact weighed_of_not hik fun j hj hjk h => hex ⟨j, hj, hjk, h⟩

/-- The group at the place `i` is the last one to have a say in the score of a result: the check has
failed, or the group has weight to share, or the first group after it that lists the module and has
weight to share gives the result the score that it has. -/
def Settles (groups : List (ModuleGroup ρ)) (results : List (CheckResult ρ)) (i : Nat)
    (g : ModuleGroup ρ) (r : CheckResult ρ) : Prop :=
  r.action = .error ∨
  Score.le (g.total (marked (groups.take i) results) results) Score.zero = false ∨
  ∀ j, i < j → Shares groups results j r.module →
    (∀ j', i < j' → j' < j → ¬ Shares groups results j' r.module) →
    groupScore groups results j r = r.weightedScore

section

variable (hr : r ∈ results) (hi : groups[i]? = some g)
  (hbefore : ∀ j < i, ¬ Shares groups results j r.module)
include hr hi hbefore

theorem weighed_of_settles (hlists : (g.weightOf r.module).isSome = true)
    (h : Settles groups results i g r) (hk : i < k) :
    weighed groups results k r = weighed groups results (i + 1) r := by
  rcases h with herror | hshares | hlater
  · have hnot : ∀ j, ¬ Rescales groups results j r := fun j h => h.1 herror
    rw [weighed_eq_self fun j _ => hnot j, weighed_eq_self fun j _ => hnot j]
  · refine weighed_of_not hk fun j hj _ h => ?_
    exact ((rescales_iff hr).1 h).2.2 i hj ⟨g, hi, hlists, hshares⟩
  · by_cases h : Rescales groups results i r
    · rw [weighed_of_rescales h hk, weighed_of_rescales h (Nat.lt_succ_self i)]
    · have hself : weighed groups results (i + 1) r = r := by
        refine weighed_eq_self fun j hj hj' => ?_
        rcases Nat.lt_succ_iff_lt_or_eq.1 hj with hj | rfl
        · exact hbefore j hj ((rescales_iff hr).1 hj').2.1
        · exact h hj'
      refine (weighed_eq_iff hk hself).2 fun j hj _ hj' => ?_
      obtain ⟨-, hshares, hnone⟩ := (rescales_iff hr).1 hj'
      exact hlater j hj hshares fun j' _ => hnone j'

theorem settles_of_weighed
    (heq : weighed groups results groups.length r = weighed groups results (i + 1) r) :
    Settles groups results i g r := by
  refine or_iff_not_imp_left.2 fun herror => or_iff_not_imp_left.2 fun hskip => ?_
  intro j hj hshares hnone
  -- neither the group nor one before it or in between has weight to share
  have hnone' : ∀ j' < j, ¬ Shares groups results j' r.module := by
    intro j' hj'
    rcases Nat.lt_trichotomy j' i with hlt | rfl | hgt
    · exact hbefore j' hlt
    · rintro ⟨g', hg', -, hshares'⟩
      obtain rfl := Option.some.inj (hi.symm.trans hg')
      exact hskip hshares'
    · exact hnone j' hgt hj'
  have h : Rescales groups results j r := (rescales_iff hr).2 ⟨herror, hshares, hnone'⟩
  have hself : weighed groups results (i + 1) r = r :=
    weighed_eq_self fun j' hj' h' => Nat.ne_of_lt (Nat.lt_of_lt_of_le hj' hj) (h'.unique h)
  have hlength : i + 1 ≤ groups.length := Nat.le_trans hj (Nat.le_of_lt h.lt_length)
  exact (weighed_eq_iff hlength hself).1 heq j hj h.lt_length h

end

/-- **The first group that lists a module weighs its result**, if it has weight to share. The score
after that group is then the final one, and no later group has any effect on it. If it has no weight to
share it is passed over like a group that does not list the module, and the result has its score from the
first later group that lists it and has weight to share. -/
theorem first_group_weighs_iff {p : Nat} (hp : results[p]? = some r) (hi : groups[i]? = some g)
    (hlists : (g.weightOf r.module).isSome = true)
    (hfirst : ∀ j < i, ∀ g', groups[j]? = some g' → g'.weightOf r.module = none) :
    ((applyGroups groups results)[p]? = (applyGroups (groups.take (i + 1)) results)[p]? ↔
      Settles groups results i g r) ∧
    ((∀ k, i < k → (applyGroups (groups.take k) results)[p]?
        = (applyGroups (groups.take (i + 1)) results)[p]?) ↔ Settles groups results i g r) ∧
    ∀ j, r.action ≠ .error → Shares groups results j r.module →
      (∀ j' < j, ¬ Shares groups results j' r.module) →
      (applyGroups groups results)[p]?
        = some { r with weightedScore := groupScore groups results j r } := by
  have hr : r ∈ results := List.mem_of_getElem? hp
  have hlength : i < groups.length := (List.getElem?_eq_some_iff.1 hi).1
  have hbefore : ∀ j < i, ¬ Shares groups results j r.module := by
    rintro j hj ⟨g', hg', hlists', -⟩
    rw [hfirst j hj g' hg'] at hlists'
    cases hlists'
  have hafter : ∀ k, (applyGroups (groups.take k) results)[p]? = some (weighed groups results k r) := by
    intro k
    rw [applyGroups_take, List.getElem?_map, hp]
    rfl
  have hall := hafter groups.length
  rw [List.take_length] at hall
  rw [hall, hafter]
  refine ⟨⟨fun heq => ?_, fun h => ?_⟩, ⟨fun heq => ?_, fun h k hk => ?_⟩,
    fun j herror hshares hnone => ?_⟩
  · exact settles_of_weighed hr hi hbefore (Option.some.inj heq)
  · rw [weighed_of_settles hr hi hbefore hlists h hlength]
  · have hlast := heq groups.length hlength
    rw [hafter] at hlast
    exact settles_of_weighed hr hi hbefore (Option.some.inj hlast)
  · rw [hafter, weighed_of_settles hr hi hbefore hlists h hk]
  · have h : Rescales groups results j r := (rescales_iff hr).2 ⟨herror, hshares, hnone⟩
    rw [weighed_of_rescales h h.lt_length]

/-- A module that two groups list. The first of them has weight to share, though not by this module. -/
theorem first_group_weighs_iff_weightless :
    let results : List (CheckResult Float) :=
      [{ CheckResult.new .reject 2 with module := "rules" },
        { CheckResult.new .reject 5 with module := "rspamd" }]
    let groups : List (ModuleGroup Float) :=
      [⟨"content", 1, [("rspamd", 1), ("rules", 0)]⟩, ⟨"local", 3, [("rules", 1)]⟩]
    (applyGroups groups results)[0]? = (applyGroups (groups.take 1) results)[0]? := by
  intro results groups
  have hr : results[0]? = some { CheckResult.new .reject 2 with module := "rules" } := rfl
  have hg : groups[0]? = some ⟨"content", 1, [("rspamd", 1), ("rules", 0)]⟩ := rfl
  have hshares : Score.le ((⟨"content", 1, [("rspamd", 1), ("rules", 0)]⟩ : ModuleGroup Float).total
      (marked (groups.take 0) results) results) Score.zero = false := by decide +kernel
  exact (first_group_weighs_iff hr hg (by decide +kernel) (by omega)).1.2 (.inr (.inl hshares))

/-- A module that two groups list. The first of them has no weight to share, and so it is the second
one that weighs the result. -/
theorem first_group_passed_over :
    let result : CheckResult Float := { CheckResult.new .reject 2 with module := "rules" }
    let groups : List (ModuleGroup Float) :=
      [⟨"content", 1, [("rules", 0)]⟩, ⟨"local", 3, [("rules", 1)]⟩]
    ((applyGroups (groups.take 1) [result])[0]?).map (·.weightedScore) = some 2 ∧
    ((applyGroups groups [result])[0]?).map (·.weightedScore) = some 6 ∧ (6 : Float) ≠ 2 := by
  decide +kernel

end MailFilter
