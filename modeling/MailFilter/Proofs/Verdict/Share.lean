/-
What a single checker has in a verdict.

The result of a checker is decided on if what has arrived before it has not stopped collection, and
there is no other result of its name. So what a checker is told after the verdict is what its own result
has asked for, or nothing at all.

* `collected_of_module`: what is collected of one checker;
* `pending_start`: what one of the started checkers finds;
* `results_judge`: what a verdict has of one checker;
* `followUps_judge`: what one checker is told.
-/
import MailFilter.Proofs.Verdict.Accounts
import MailFilter.Proofs.Verdict.Deciding

namespace MailFilter

/-! ### What is collected -/

namespace Collection

/-- The results `collected` of the module `name`. -/
def ofModule {ρ : Type} (c : Collection ρ) (name : String) : List (Nat × CheckResult ρ) :=
  c.collected.filter fun x => x.2.module = name

/-- The results of a `name` come into the verdict as they have been collected, if there
is one at most. -/
theorem filter_results {ρ : Type} {c : Collection ρ} {name : String}
    (h : (c.ofModule name).length ≤ 1) :
    c.results.filter (fun r => r.module = name) = (c.ofModule name).map Prod.snd := by
  have hperm : (c.results.filter fun r => r.module = name).Perm ((c.ofModule name).map Prod.snd) := by
    rw [results, List.filter_map]
    exact ((List.mergeSort_perm ..).filter _).map _
  rcases hx : c.ofModule name with _ | ⟨x, _ | ⟨y, rest⟩⟩
  · rw [hx] at hperm
    exact List.perm_nil.1 hperm
  · rw [hx] at hperm
    exact List.perm_singleton.1 hperm
  · rw [hx] at h
    simp at h

variable {ρ : Type} [Score ρ] {scoring : Scoring ρ} {c : Collection ρ}
  {before after : List (Nat × CheckResult ρ)} {a : Nat × CheckResult ρ} {name : String}

/-- Nothing is collected by `addAll` but what arrives. -/
theorem collected_addAll_append (scoring : Scoring ρ) (c : Collection ρ)
    (arrivals : List (Nat × CheckResult ρ)) :
    ∃ more, (c.addAll scoring arrivals).collected = c.collected ++ more ∧
      more ⊆ arrivals.map entry := by
  induction arrivals generalizing c with
  | nil => exact ⟨[], by simp⟩
  | cons a rest ih =>
    obtain ⟨more, hmore, hsub⟩ := ih (c.add scoring a.1 a.2)
    rw [addAll_cons, hmore]
    cases hc : c.tripped with
    | true =>
      rw [add_of_tripped hc]
      exact ⟨more, rfl, fun x hx => List.mem_cons_of_mem _ (hsub hx)⟩
    | false =>
      rw [add_of_not_tripped hc, List.append_assoc]
      exact ⟨entry a :: more, rfl, List.cons_subset_cons _ hsub⟩

theorem ofModule_addAll_of_ne (hname : ∀ x ∈ after, x.2.module ≠ name) :
    (c.addAll scoring after).ofModule name = c.ofModule name := by
  obtain ⟨more, hmore, hsub⟩ := collected_addAll_append scoring c after
  have hnil : more.filter (fun x => x.2.module = name) = [] := by
    refine List.filter_eq_nil_iff.2 fun x hx => ?_
    obtain ⟨y, hy, rfl⟩ := List.mem_map.1 (hsub hx)
    rw [decide_eq_true_eq]
    exact hname y hy
  rw [ofModule, hmore, List.filter_append, hnil, List.append_nil, ofModule]

/-- A result is collected unless collection has `tripped` before it. -/
theorem collected_of_module (hbefore : ∀ x ∈ before, x.2.module ≠ a.2.module)
    (hafter : ∀ x ∈ after, x.2.module ≠ a.2.module) :
    ((empty : Collection ρ).addAll scoring (before ++ a :: after)).ofModule a.2.module
      = if ((empty : Collection ρ).addAll scoring before).tripped then [] else [entry a] := by
  have hnone : ((empty : Collection ρ).addAll scoring before).ofModule a.2.module = [] :=
    ofModule_addAll_of_ne hbefore
  rw [addAll_append, addAll_cons, ofModule_addAll_of_ne hafter]
  cases hb : ((empty : Collection ρ).addAll scoring before).tripped with
  | true =>
    rw [add_of_tripped hb, hnone]
    rfl
  | false =>
    rw [add_of_not_tripped hb, ofModule, List.filter_append]
    rw [ofModule] at hnone
    rw [hnone]
    simp [entry, CheckResult.normalized]

/-- What has arrived without anything against a message permits it, by `Verdict.action_of_permits`. -/
theorem action_of_permits {arrivals : List (Nat × CheckResult ρ)}
    (h : ∀ x ∈ arrivals, x.2.action = .permit)
    (hreject : Verdict.reaches (Score.sum []) scoring.rejectThreshold = false)
    (htempfail : Verdict.reaches (Score.add (Score.sum []) (Score.sum []))
      scoring.tempfailThreshold = false) :
    (((empty : Collection ρ).addAll scoring arrivals).verdict scoring).action = .permit := by
  obtain ⟨more, hmore, hsub⟩ :=
    collected_addAll_append scoring (empty : Collection ρ) arrivals
  refine Verdict.action_of_permits (fun r hr => ?_) hreject htempfail
  -- weights change no disposition
  have hweighted := unweighted_verdict ((empty : Collection ρ).addAll scoring arrivals) scoring
  have hmem := hweighted ▸ List.mem_map_of_mem (f := CheckResult.unweighted) hr
  obtain ⟨r', hr', heq⟩ := List.mem_map.1 hmem
  obtain ⟨x, hx, rfl⟩ := List.mem_map.1 ((List.mergeSort_perm ..).map _ |>.subset hr')
  rw [hmore] at hx
  obtain ⟨y, hy, rfl⟩ := List.mem_map.1 (hsub hx)
  have haction : r.action = y.2.normalized.action := (congrArg CheckResult.action heq).symm
  rw [haction, CheckResult.normalized, h y hy]
  simp [CheckResult.effectiveAction]

end Collection

/-! ### What one checker finds -/

namespace Judging

variable {σ : Type} {config : Config} {ctx : CheckContext} {now : Timestamp}

/-- What arrives before the result of the checker at `place` does not stop collection. -/
def Collects (j : Judging σ) (place : Nat) : Prop :=
  ((Collection.empty : Collection Float).addAll j.scoring
    (brought (j.pending.takeWhile fun a => a.place ≠ place))).tripped = false

instance (j : Judging σ) (place : Nat) : Decidable (j.Collects place) :=
  inferInstanceAs (Decidable (_ = false))

/-- Checkers are started in their order by `startAll`. -/
theorem startAll_append (config : Config) (ctx : CheckContext) (now : Timestamp) (place : Nat)
    (before after : List (Checker σ)) (s : σ) :
    (startAll config ctx now place (before ++ after) s).1
      = (startAll config ctx now place before s).1 ++
        (startAll config ctx now (place + before.length) after
          (startAll config ctx now place before s).2).1 := by
  induction before generalizing place s with
  | nil => rfl
  | cons c rest ih =>
    have hplace : place + (rest.length + 1) = place + 1 + rest.length := by omega
    rw [List.cons_append, startAll, startAll, List.length_cons, hplace]
    dsimp only
    rw [ih, List.cons_append]

/-- What comes of started checkers has their places, from `place` on, and their names. -/
theorem mem_startAll {place : Nat} {cs : List (Checker σ)} {s : σ} {a : Arrival σ}
    (h : a ∈ (startAll config ctx now place cs s).1) :
    (place ≤ a.place ∧ a.place < place + cs.length) ∧
      ∀ r, a.result = some r → r.module ∈ cs.map (·.name) := by
  induction cs generalizing place s with
  | nil => cases h
  | cons c cs ih =>
    rw [startAll] at h
    rcases List.mem_cons.1 h with rfl | h
    · refine ⟨⟨Nat.le_refl _, by simp [arrivalOf]⟩, fun r hr => ?_⟩
      obtain ⟨r', -, rfl⟩ := Option.map_eq_some_iff.1 hr
      exact List.mem_cons_self
    · obtain ⟨⟨hle, hlt⟩, hmodule⟩ := ih h
      rw [List.length_cons]
      exact ⟨⟨by omega, by omega⟩, fun r hr => List.mem_cons_of_mem _ (hmodule r hr)⟩

variable {registry : Registry σ} {before after : List (Checker σ)} {c : Checker σ}

/-- What comes of `startAll` is in the order of the checkers. -/
theorem places_startAll (place : Nat) (cs : List (Checker σ)) (s : σ) :
    (startAll config ctx now place cs s).1.Pairwise fun a b => a.place < b.place := by
  induction cs generalizing place s with
  | nil => exact .nil
  | cons c cs ih =>
    refine List.pairwise_cons.2 ⟨fun b hb => ?_, ih ..⟩
    exact (mem_startAll hb).1.1

/-- Checks that take no time come to their results in the order of their checkers: that in which
`startAll` has started them. -/
theorem pending_start_of_prompt {s : σ}
    (h : ∀ a ∈ (startAll config ctx now 0 registry.enabled s).1, a.atMs = 0) :
    (start registry config ctx now s).1.pending
      = (startAll config ctx now 0 registry.enabled s).1 := by
  refine List.mergeSort_of_pairwise ((places_startAll ..).imp_of_mem fun ha hb hlt => ?_)
  simp [precedes, h _ ha, h _ hb, Nat.le_of_lt hlt]

/-- The check of the checker `c`, by what the checkers `before` it have left in the memory. -/
def runOf (config : Config) (ctx : CheckContext) (now : Timestamp) (before : List (Checker σ))
    (c : Checker σ) (s : σ) : CheckRun :=
  (c.check ctx now (startAll config ctx now 0 before s).2).1

/-- What comes of one checker, by `runOf`, among all that is still to arrive. -/
theorem pending_start (henabled : registry.enabled = before ++ c :: after)
    (hnames : (registry.enabled.map (·.name)).Nodup) (s : σ) :
    ∃ earlier a later, (start registry config ctx now s).1.pending = earlier ++ a :: later ∧
      a.place = before.length ∧ a.result = opinion config (c, runOf config ctx now before c s) ∧
      ∀ b ∈ earlier ++ later, b.place ≠ before.length ∧
        ∀ r, b.result = some r → r.module ≠ c.name := by
  obtain ⟨a, ha⟩ : ∃ a, a = arrivalOf config.milter.moduleTimeoutMs config.scoring.errorScore c
      before.length (runOf config ctx now before c s) := ⟨_, rfl⟩
  obtain ⟨first, hfirst⟩ : ∃ first, first = (startAll config ctx now 0 before s).1 := ⟨_, rfl⟩
  obtain ⟨last, hlast⟩ : ∃ last, last = (startAll config ctx now (before.length + 1) after
      (c.check ctx now (startAll config ctx now 0 before s).2).2).1 := ⟨_, rfl⟩
  have hperm : (start registry config ctx now s).1.pending.Perm (first ++ a :: last) := by
    refine (List.mergeSort_perm ..).trans (List.Perm.of_eq ?_)
    rw [henabled, startAll_append, startAll, Nat.zero_add, ha, hfirst, hlast]
    rfl
  obtain ⟨earlier, later, hpending⟩ :=
    List.append_of_mem (hperm.symm.subset (List.mem_append_right first List.mem_cons_self))
  have hothers : (earlier ++ later).Perm (first ++ last) := by
    rw [hpending] at hperm
    exact (List.perm_middle.symm.trans (hperm.trans List.perm_middle)).cons_inv
  refine ⟨earlier, a, later, hpending, by rw [ha]; rfl, by rw [ha]; rfl, fun b hb => ?_⟩
  -- the others have places before or after it, and other names
  rw [henabled, List.map_append, List.map_cons, List.nodup_append] at hnames
  obtain ⟨-, hafter, hbefore⟩ := hnames
  rcases List.mem_append.1 (hothers.subset hb) with hb | hb
  · rw [hfirst] at hb
    obtain ⟨⟨-, hlt⟩, hmodule⟩ := mem_startAll hb
    exact ⟨by omega, fun r hr => hbefore _ (hmodule r hr) _ List.mem_cons_self⟩
  · rw [hlast] at hb
    obtain ⟨⟨hle, -⟩, hmodule⟩ := mem_startAll hb
    refine ⟨by omega, fun r hr heq => (List.nodup_cons.1 hafter).1 ?_⟩
    rw [← heq]
    exact hmodule r hr

/-! ### What one checker is told -/

theorem module_ne_of_brought {arrivals : List (Arrival σ)} {name : String}
    (h : ∀ b ∈ arrivals, ∀ r, b.result = some r → r.module ≠ name) :
    ∀ x ∈ brought arrivals, x.2.module ≠ name := by
  intro x hx
  obtain ⟨b, hb, hr⟩ := List.mem_filterMap.1 hx
  obtain ⟨r, hresult, rfl⟩ := Option.map_eq_some_iff.1 hr
  exact h b hb r hresult

theorem verdict_judge (registry : Registry σ) (config : Config) (ctx : CheckContext)
    (now : Timestamp) (m : Metrics) (s : σ) :
    (registry.judge config ctx now m s).1
      = ((Collection.empty : Collection Float).addAll config.scoring
        (brought (start registry config ctx now s).1.pending)).verdict config.scoring :=
  verdict_finish _ m _

/-- The results of a checker in what has been collected: its own if it is not too late, where judging
`Collects` it. -/
theorem ofModule_start (config : Config) (ctx : CheckContext) (now : Timestamp)
    (henabled : registry.enabled = before ++ c :: after)
    (hnames : (registry.enabled.map (·.name)).Nodup) (s : σ) :
    ((Collection.empty : Collection Float).addAll config.scoring
        (brought (start registry config ctx now s).1.pending)).ofModule c.name
      = if (start registry config ctx now s).1.Collects before.length then
          ((opinion config (c, runOf config ctx now before c s)).map fun r =>
            (before.length, r.normalized)).toList
        else [] := by
  obtain ⟨earlier, a, later, hpending, hplace, hresult, hothers⟩ :=
    pending_start henabled hnames s
  -- no result but that of the checker itself has its name, so only the place where it comes matters
  have hearlier : ∀ x ∈ brought earlier, x.2.module ≠ c.name :=
    module_ne_of_brought fun b hb => (hothers b (List.mem_append_left _ hb)).2
  have hlater : ∀ x ∈ brought later, x.2.module ≠ c.name :=
    module_ne_of_brought fun b hb => (hothers b (List.mem_append_right _ hb)).2
  have htake : (start registry config ctx now s).1.pending.takeWhile
      (fun b => b.place ≠ before.length) = earlier := by
    rw [hpending, List.takeWhile_append_of_pos, List.takeWhile_cons_of_neg, List.append_nil]
    · simpa using hplace
    · intro b hb
      simpa using (hothers b (List.mem_append_left _ hb)).1
  have hcollects : (start registry config ctx now s).1.Collects before.length ↔
      ((Collection.empty : Collection Float).addAll config.scoring (brought earlier)).tripped
        = false := by
    rw [Collects, htake]
    rfl
  rw [hpending, brought_append]
  cases hr : a.result with
  | none =>
    rw [hresult] at hr
    rw [brought_cons_none (hresult.trans hr), hr, ← brought_append,
      Collection.ofModule_addAll_of_ne]
    · simp [Collection.ofModule, Collection.empty]
    · exact fun x hx => (List.mem_append.1 (brought_append earlier later ▸ hx)).elim
        (hearlier x) (hlater x)
  | some r =>
    rw [hresult] at hr
    have hmodule : r.module = c.name := module_opinion hr
    rw [brought_cons_some (hresult.trans hr), hr, hplace, ← hmodule]
    rw [← hmodule] at hearlier hlater
    rw [Collection.collected_of_module hearlier hlater]
    cases ht : ((Collection.empty : Collection Float).addAll config.scoring
        (brought earlier)).tripped <;> simp [hcollects, ht, Collection.entry]

end Judging

/-- What results of a `name` ask for, now that `action` is the disposition. -/
def CheckResult.requestsOf (name : String) (action : Action) (results : List (CheckResult Float)) :
    List FollowUp :=
  (results.filter fun r => r.module = name).flatMap fun r =>
    r.followUps.map fun token => ⟨name, token, action⟩

theorem CheckResult.requestsOf_unweighted (name : String) (action : Action)
    (results : List (CheckResult Float)) :
    requestsOf name action (results.map unweighted) = requestsOf name action results := by
  rw [requestsOf, List.filter_map, List.flatMap_map]
  rfl

theorem Verdict.filter_followUps (v : Verdict Float) (action : Action) (name : String) :
    (v.followUps action).filter (fun u => u.module = name)
      = CheckResult.requestsOf name action v.results := by
  rw [followUps, CheckResult.requestsOf]
  induction v.results with
  | nil => rfl
  | cons r rest ih =>
    rw [List.flatMap_cons, List.filter_append, ih, List.filter_cons]
    by_cases h : r.module = name
    · have hall : (r.followUps.map fun token => (⟨r.module, token, action⟩ : FollowUp)).filter
          (fun u => u.module = name)
          = r.followUps.map fun token => ⟨name, token, action⟩ := by
        rw [h]
        exact List.filter_eq_self.2 (by simp)
      rw [hall, if_pos (decide_eq_true h), List.flatMap_cons]
    · have hnone : (r.followUps.map fun token => (⟨r.module, token, action⟩ : FollowUp)).filter
          (fun u => u.module = name) = [] :=
        List.filter_eq_nil_iff.2 (by simp [h])
      rw [hnone, if_neg (by simpa using h), List.nil_append]

/-- **What a verdict has of a checker**: its own result if judging `Collects` that, and no other. -/
theorem Judging.results_judge {σ : Type} (config : Config) (ctx : CheckContext) (now : Timestamp)
    {registry : Registry σ} {before after : List (Checker σ)} {c : Checker σ}
    (henabled : registry.enabled = before ++ c :: after)
    (hnames : (registry.enabled.map (·.name)).Nodup) (m : Metrics) (s : σ) :
    ((registry.judge config ctx now m s).1.results.map CheckResult.unweighted).filter
        (fun r => r.module = c.name)
      = if (start registry config ctx now s).1.Collects before.length then
          ((opinion config (c, runOf config ctx now before c s)).map CheckResult.normalized).toList
        else [] := by
  have hmodule := ofModule_start config ctx now henabled hnames s
  have hone : (((Collection.empty : Collection Float).addAll config.scoring
      (brought (start registry config ctx now s).1.pending)).ofModule c.name).length ≤ 1 := by
    rw [hmodule]
    split
    · exact Option.length_toList_le
    · exact Nat.zero_le _
  rw [verdict_judge, Collection.unweighted_verdict, List.filter_map]
  show (List.filter (fun r => decide (r.module = c.name)) _).map CheckResult.unweighted = _
  rw [Collection.filter_results hone, hmodule]
  split
  · cases opinion config (c, runOf config ctx now before c s) <;> rfl
  · rfl

/-- **What a checker is told after the verdict**: what its own result has asked for if judging `Collects`
that, and nothing else. -/
theorem Judging.followUps_judge {σ : Type} (config : Config) (ctx : CheckContext) (now : Timestamp)
    {registry : Registry σ} {before after : List (Checker σ)} {c : Checker σ}
    (henabled : registry.enabled = before ++ c :: after)
    (hnames : (registry.enabled.map (·.name)).Nodup) (m : Metrics) (s : σ) (action : Action) :
    ((registry.judge config ctx now m s).1.followUps action).filter (fun u => u.module = c.name)
      = if (start registry config ctx now s).1.Collects before.length then
          (((opinion config (c, runOf config ctx now before c s)).map (·.followUps)).getD []).map
            fun token => ⟨c.name, token, action⟩
        else [] := by
  rw [Verdict.filter_followUps, ← CheckResult.requestsOf_unweighted, CheckResult.requestsOf,
    results_judge config ctx now henabled hnames]
  split
  · cases opinion config (c, runOf config ctx now before c s) with
    | none => rfl
    | some r => simp [CheckResult.normalized]
  · rfl

/-- Only where collection stops, with `breakerTripped`, some results are not collected. -/
theorem Judging.collects_of_complete {σ : Type} {config : Config} {ctx : CheckContext}
    {now : Timestamp} {registry : Registry σ} {m : Metrics} {s : σ}
    (h : (registry.judge config ctx now m s).1.breakerTripped = false) (place : Nat) :
    (start registry config ctx now s).1.Collects place := by
  rw [verdict_judge] at h
  have hsplit := List.takeWhile_append_dropWhile (p := fun a : Arrival σ => decide (a.place ≠ place))
    (l := (start registry config ctx now s).1.pending)
  rw [← hsplit, brought_append] at h
  rw [Collection.addAll_append] at h
  exact Collection.not_tripped_of_addAll h

end MailFilter
