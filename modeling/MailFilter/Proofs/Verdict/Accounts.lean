/-
What becomes of each result.

Every check that has been started has an outcome, and the outcomes arrive in some order. The results
that are collected are decided on in the order of their checkers, under the names of their checkers;
once collection has stopped, what still arrives has no say. All results are measured, whether they are
collected or not: only a check that is cancelled has none.

* `unweighted_verdict`: weights change nothing of a result but its weighted score;
* `metrics_finish`: every result that judging hears is measured once;
* `perm_start`: judging starts with the outcomes of the enabled checkers;
* `judging_accounts`: what becomes of the outcomes, whatever they are and however they arrive.
-/
import MailFilter.Proofs.Verdict.Judging

namespace MailFilter

/-! ### Weights -/

section

variable {ρ : Type}

/-- A result without the weights of groups: its `weightedScore` is its score. -/
def CheckResult.unweighted (r : CheckResult ρ) : CheckResult ρ :=
  { r with weightedScore := r.score }

variable [Score ρ]

theorem ModuleGroup.unweighted_rescale (g : ModuleGroup ρ) (done : List String) (scale : ρ)
    (r : CheckResult ρ) : (g.rescale done scale r).unweighted = r.unweighted := by
  unfold ModuleGroup.rescale
  split
  · split <;> rfl
  · rfl

theorem unweighted_applyGroupsFrom (done : List String) (results : List (CheckResult ρ))
    (groups : List (ModuleGroup ρ)) :
    (applyGroupsFrom done results groups).map CheckResult.unweighted
      = results.map CheckResult.unweighted := by
  induction groups generalizing done results with
  | nil => rfl
  | cons g gs ih =>
    rw [applyGroupsFrom, ih]
    unfold ModuleGroup.apply
    dsimp only
    split
    · rfl
    · simp only [List.map_map, Function.comp_def, ModuleGroup.unweighted_rescale]

namespace Collection

/-- Collected results in the order of their checkers, each `normalized`. -/
def inOrder (arrivals : List (Nat × CheckResult ρ)) : List (CheckResult ρ) :=
  (arrivals.mergeSort fun a b => a.1 ≤ b.1).map fun a => a.2.normalized

theorem results_eq_inOrder {c : Collection ρ} {arrivals : List (Nat × CheckResult ρ)}
    (h : c.collected = arrivals.map entry) : c.results = inOrder arrivals := by
  have hsort : (arrivals.mergeSort fun a b => a.1 ≤ b.1).map entry
      = (arrivals.map entry).mergeSort fun a b => a.1 ≤ b.1 :=
    List.map_mergeSort fun _ _ _ _ => rfl
  rw [results, h, ← hsort, List.map_map]
  rfl

/-- Weights change nothing of a result but its `weightedScore`. -/
theorem unweighted_verdict (c : Collection ρ) (scoring : Scoring ρ) :
    (c.verdict scoring).results.map CheckResult.unweighted
      = c.results.map CheckResult.unweighted :=
  unweighted_applyGroupsFrom ..

theorem results_verdict {c : Collection ρ} {arrivals : List (Nat × CheckResult ρ)}
    (h : c.collected = arrivals.map entry) (scoring : Scoring ρ) :
    (c.verdict scoring).results.map CheckResult.unweighted = inOrder arrivals := by
  rw [unweighted_verdict, results_eq_inOrder h, inOrder, List.map_map]
  rfl

end Collection

end

/-! ### Measures -/

namespace Metrics

/-- How many durations of a `module` have been measured. -/
def durationCount (m : Metrics) (module : String) : Nat :=
  ((Fields.find? module m.moduleDurations).getD {}).count

theorem durationCount_noteDuration (m : Metrics) (name module : String) (seconds : Float) :
    (m.noteDuration name seconds).durationCount module
      = m.durationCount module + if name = module then 1 else 0 := by
  unfold durationCount noteDuration
  by_cases h : name = module
  · subst h
    rw [Fields.find?_insert_self, if_pos rfl]
    rfl
  · rw [Fields.find?_insert_of_ne (Ne.symm h), if_neg h, Nat.add_zero]

end Metrics

namespace Judging

variable {σ : Type}

theorem durationCount_measure (r : CheckResult Float) (m : Metrics) (module : String) :
    (measure r m).durationCount module
      = m.durationCount module + if r.module = module then 1 else 0 := by
  unfold measure
  dsimp only
  split <;> exact Metrics.durationCount_noteDuration ..

theorem errorCount_measure (r : CheckResult Float) (m : Metrics) (module : String) :
    (measure r m).moduleErrors.count module = m.moduleErrors.count module
      + if r.module = module ∧ r.action = .error then 1 else 0 := by
  unfold measure
  by_cases h : r.action = .error
  · simp only [h, and_true]
    exact Tally.count_add ..
  · simp only [h, and_false, if_false]
    rfl

/-- Applies `measure` to results one after the other. -/
def measureAll (results : List (CheckResult Float)) (m : Metrics) : Metrics :=
  results.foldl (fun m r => measure r m) m

theorem durationCount_measureAll (results : List (CheckResult Float)) (m : Metrics)
    (module : String) :
    (measureAll results m).durationCount module
      = m.durationCount module + results.countP fun r => r.module = module := by
  induction results generalizing m with
  | nil => rfl
  | cons r rest ih =>
    rw [measureAll, List.foldl_cons, ← measureAll, ih, durationCount_measure, List.countP_cons]
    simp only [decide_eq_true_eq]
    omega

theorem errorCount_measureAll (results : List (CheckResult Float)) (m : Metrics)
    (module : String) :
    (measureAll results m).moduleErrors.count module = m.moduleErrors.count module
      + results.countP fun r => r.module = module ∧ r.action = .error := by
  induction results generalizing m with
  | nil => rfl
  | cons r rest ih =>
    rw [measureAll, List.foldl_cons, ← measureAll, ih, errorCount_measure, List.countP_cons]
    simp only [decide_eq_true_eq]
    omega

/-! ### What is heard -/

/-- Whether the check `b` is cancelled when collection stops with the arrival `a`. -/
def isCancelledBy (a b : Arrival σ) : Bool :=
  b.onCancel.isSome && a.atMs < b.atMs

/-- What judging hears of what is still to arrive: all but the checks that are cancelled, by
`isCancelledBy`. -/
def heard (scoring : Scoring Float) (c : Collection Float) : List (Arrival σ) → List (Arrival σ)
  | [] => []
  | a :: rest =>
    match a.result with
    | none => a :: heard scoring c rest
    | some r =>
      if (c.add scoring a.place r).tripped && !c.tripped then
        a :: rest.filter fun b => !isCancelledBy a b
      else a :: heard scoring (c.add scoring a.place r) rest

/-- The results that `arrivals` bring: none comes of a check that has abstained. -/
def resultsOf (arrivals : List (Arrival σ)) : List (CheckResult Float) :=
  arrivals.filterMap (·.result)

variable {scoring : Scoring Float} {c : Collection Float} {a : Arrival σ}
  {before after rest : List (Arrival σ)}

theorem heard_of_tripped (h : c.tripped = true) (arrivals : List (Arrival σ)) :
    heard scoring c arrivals = arrivals := by
  induction arrivals with
  | nil => rfl
  | cons a rest ih =>
    rw [heard]
    cases a.result with
    | none => exact congrArg _ ih
    | some r =>
      simp only [Collection.add_of_tripped h, h, Bool.not_true, Bool.and_false, Bool.false_eq_true,
        if_false, ih]

/-- As long as collection does not stop, everything is `heard`. -/
theorem heard_append (h : (c.addAll scoring (brought before)).tripped = false) :
    heard scoring c (before ++ rest)
      = before ++ heard scoring (c.addAll scoring (brought before)) rest := by
  induction before generalizing c with
  | nil => rfl
  | cons a before ih =>
    rw [List.cons_append, heard]
    cases hr : a.result with
    | none =>
      rw [brought_cons_none hr] at h ⊢
      exact congrArg _ (ih h)
    | some r =>
      rw [brought_cons_some hr, Collection.addAll_cons] at h ⊢
      have hadd : (c.add scoring a.place r).tripped = false := Collection.not_tripped_of_addAll h
      simp only [hadd, Bool.false_and, Bool.false_eq_true, if_false]
      exact congrArg _ (ih h)

theorem heard_of_not_tripped {arrivals : List (Arrival σ)}
    (h : (c.addAll scoring (brought arrivals)).tripped = false) :
    heard scoring c arrivals = arrivals := by
  have hnil : heard scoring c (arrivals ++ []) = arrivals ++ [] := heard_append h
  rwa [List.append_nil] at hnil

theorem heard_of_stops {r : CheckResult Float} (hr : a.result = some r)
    (h : Collection.StopsAt scoring (brought before) (a.place, r)) :
    heard scoring .empty (before ++ a :: after)
      = before ++ a :: after.filter fun b => !isCancelledBy a b := by
  have hstops := h.stops
  rw [Collection.addAll_append, Collection.addAll_cons, Collection.addAll_nil] at hstops
  rw [heard_append h.goesOn, heard, hr]
  simp only [hstops, h.goesOn, Bool.not_false, Bool.and_self, if_true]

/-- Every result that judging has `heard` is measured once. -/
theorem metrics_finish (j : Judging σ) (m : Metrics) (s : σ) :
    (j.finish m s).2.1 = measureAll (resultsOf (heard j.scoring j.collection j.pending)) m := by
  unfold finish
  generalize hp : (fun _ : Arrival σ => true) = p
  fun_induction receiveWhile p j m s with
  | case1 j m s h => rw [h]; rfl
  | case3 j m s a rest h hnot => simp [← hp] at hnot
  | case2 j m s a rest h _ next ih =>
    rw [ih, h, heard]
    show measureAll (resultsOf (heard (receive a { j with pending := rest } m s).1.scoring
      (receive a { j with pending := rest } m s).1.collection
      (receive a { j with pending := rest } m s).1.pending))
      (receive a { j with pending := rest } m s).2.1 = _
    unfold receive
    cases hr : a.result with
    | none =>
      rw [resultsOf, resultsOf, List.filterMap_cons_none hr]
    | some r =>
      dsimp only
      split
      · next htrip =>
        -- what is not cancelled is heard, though no longer collected
        have hstop : (j.collection.add j.scoring a.place r).tripped = true := by
          simp only [Bool.and_eq_true] at htrip
          exact htrip.1
        simp only [cancel]
        rw [heard_of_tripped hstop, resultsOf, resultsOf, List.filterMap_cons_some hr]
        rfl
      · rw [resultsOf, resultsOf, List.filterMap_cons_some hr]
        rfl

/-! ### Outcomes -/

/-- What comes of checks that have been started, by `arrivalOf`, in the order of their checkers. -/
def outcomes (config : Config) (place : Nat) : List (Checker σ × CheckRun) → List (Arrival σ)
  | [] => []
  | (c, run) :: rest =>
    arrivalOf config.milter.moduleTimeoutMs config.scoring.errorScore c place run
      :: outcomes config (place + 1) rest

/-- The result of a check that has been started, by `arrivalOf`, unless it abstains. -/
def opinion (config : Config) (check : Checker σ × CheckRun) : Option (CheckResult Float) :=
  (arrivalOf config.milter.moduleTimeoutMs config.scoring.errorScore check.1 0 check.2).result

/-- A result that is the `opinion` of a check carries the name of its checker. -/
theorem module_opinion {config : Config} {check : Checker σ × CheckRun} {r : CheckResult Float}
    (h : opinion config check = some r) : r.module = check.1.name := by
  rw [opinion, arrivalOf] at h
  obtain ⟨r', -, rfl⟩ := Option.map_eq_some_iff.1 h
  rfl

/-- A check has an `opinion` unless it abstains in time. -/
theorem opinion_eq_none_iff {config : Config} {check : Checker σ × CheckRun} :
    opinion config check = none ↔
      check.2.delayMs ≤ config.milter.moduleTimeoutMs ∧ check.2.outcome = .abstained := by
  rw [opinion, arrivalOf, Option.map_eq_none_iff]
  split
  · next hlate => simp [Nat.not_le.2 hlate]
  · next hintime =>
    rw [and_iff_right (Nat.not_lt.1 hintime)]
    cases check.2.outcome <;> simp [resultOf]

theorem resultsOf_outcomes (config : Config) (place : Nat) (runs : List (Checker σ × CheckRun)) :
    resultsOf (outcomes config place runs) = runs.filterMap (opinion config) := by
  induction runs generalizing place with
  | nil => rfl
  | cons check rest ih =>
    have hrest := ih (place + 1)
    rw [resultsOf] at hrest
    rw [outcomes, resultsOf, List.filterMap_cons, List.filterMap_cons, hrest]
    rfl

theorem brought_map_snd (arrivals : List (Arrival σ)) :
    (brought arrivals).map Prod.snd = resultsOf arrivals := by
  rw [brought, List.map_filterMap, resultsOf]
  congr 1
  funext a
  cases a.result <;> rfl

theorem le_place_of_mem_outcomes {config : Config} {place : Nat}
    {runs : List (Checker σ × CheckRun)} (h : a ∈ outcomes config place runs) : place ≤ a.place := by
  induction runs generalizing place with
  | nil => cases h
  | cons check rest ih =>
    rcases List.mem_cons.1 h with rfl | h
    · exact Nat.le_refl _
    · exact Nat.le_of_succ_le (ih h)

theorem pairwise_outcomes (config : Config) (place : Nat) (runs : List (Checker σ × CheckRun)) :
    (outcomes config place runs).Pairwise fun a b => a.place < b.place := by
  induction runs generalizing place with
  | nil => exact .nil
  | cons check rest ih =>
    exact List.pairwise_cons.2 ⟨fun b hb => le_place_of_mem_outcomes hb, ih _⟩

theorem pairwise_brought {arrivals : List (Arrival σ)}
    (h : arrivals.Pairwise fun a b => a.place < b.place) :
    (brought arrivals).Pairwise fun a b => a.1 < b.1 := by
  refine List.Pairwise.filterMap _ (fun a b hab x hx y hy => ?_) h
  obtain ⟨_, -, rfl⟩ := Option.map_eq_some_iff.1 hx
  obtain ⟨_, -, rfl⟩ := Option.map_eq_some_iff.1 hy
  exact hab

/-- The `outcomes` come into the order of their checkers, however they have arrived. -/
theorem inOrder_outcomes {config : Config} {runs : List (Checker σ × CheckRun)}
    {arrivals : List (Arrival σ)} (h : arrivals.Perm (outcomes config 0 runs)) :
    Collection.inOrder (brought arrivals)
      = (runs.filterMap (opinion config)).map CheckResult.normalized := by
  have hpairwise := pairwise_brought (pairwise_outcomes config 0 runs)
  let sorted : Collection Float :=
    { Collection.empty with collected := (brought (outcomes config 0 runs)).map Collection.entry }
  let arrived : Collection Float :=
    { Collection.empty with collected := (brought arrivals).map Collection.entry }
  have hsorted : sorted.collected.Pairwise fun a b => a.1 < b.1 := List.pairwise_map.2 hpairwise
  have hplaces : (sorted.collected.map Prod.fst).Nodup :=
    List.pairwise_map.2 (hsorted.imp fun hab => Nat.ne_of_lt hab)
  have hperm : sorted.collected.Perm arrived.collected := ((h.filterMap _).map _).symm
  rw [← Collection.results_eq_inOrder (c := arrived) rfl,
    ← Collection.results_of_perm hplaces hperm, Collection.results_of_pairwise hsorted,
    ← resultsOf_outcomes config 0, ← brought_map_snd]
  simp only [sorted, List.map_map]
  rfl

theorem startAll_eq (config : Config) (ctx : CheckContext) (now : Timestamp) (place : Nat)
    (cs : List (Checker σ)) (s : σ) : ∃ runs, runs.map Prod.fst = cs ∧
      (startAll config ctx now place cs s).1 = outcomes config place runs := by
  induction cs generalizing place s with
  | nil => exact ⟨[], rfl, rfl⟩
  | cons c cs ih =>
    obtain ⟨runs, hnames, hruns⟩ := ih (place + 1) (c.check ctx now s).2
    refine ⟨(c, (c.check ctx now s).1) :: runs, congrArg (c :: ·) hnames, ?_⟩
    rw [startAll, outcomes, ← hruns]

/-- Judging starts with the `outcomes` of the enabled checkers `pending`. -/
theorem perm_start (registry : Registry σ) (config : Config) (ctx : CheckContext) (now : Timestamp)
    (s : σ) : ∃ runs, runs.map Prod.fst = registry.enabled ∧
      (start registry config ctx now s).1.pending.Perm (outcomes config 0 runs) := by
  obtain ⟨runs, hnames, hruns⟩ := startAll_eq config ctx now 0 registry.enabled s
  refine ⟨runs, hnames, ?_⟩
  rw [start, ← hruns]
  exact List.mergeSort_perm ..

/-! ### What becomes of the outcomes -/

/-- What becomes of the `outcomes` of checks that have been started: what is measured, decided on and
told. -/
structure Accounted (config : Config) (runs : List (Checker σ × CheckRun)) (j : Judging σ) :
    Prop where
  /-- Every result carries the name of its checker. -/
  named : ∀ check ∈ runs, ∀ r, opinion config check = some r → r.module = check.1.name
  /-- A check has a result unless it abstains in time. -/
  abstains : ∀ check ∈ runs, opinion config check = none ↔
    check.2.delayMs ≤ config.milter.moduleTimeoutMs ∧ check.2.outcome = .abstained
  /-- If collection does not stop, all results are decided on, in the order of their checkers, and all
  are heard. -/
  complete : ∀ m s, (j.finish m s).1.verdict.breakerTripped = false →
    (j.finish m s).1.verdict.results.map CheckResult.unweighted
        = (runs.filterMap (opinion config)).map CheckResult.normalized ∧
      heard j.scoring j.collection j.pending = j.pending
  /-- If collection stops with an arrival, the results up to that one are decided on, and what arrives
  later has no say; all but the checks that are cancelled are heard. -/
  cut : ∀ m s, (j.finish m s).1.verdict.breakerTripped = true → ∃ before a after r,
    j.pending = before ++ a :: after ∧ a.result = some r ∧
    Collection.StopsAt j.scoring (brought before) (a.place, r) ∧
    (j.finish m s).1.verdict.results.map CheckResult.unweighted
        = Collection.inOrder (brought (before ++ [a])) ∧
    heard j.scoring j.collection j.pending
        = before ++ a :: after.filter (fun b => !isCancelledBy a b) ∧
    ∀ (j' : Judging σ) (later : List (Arrival σ)), j'.scoring = j.scoring →
      j'.collection = j.collection → j'.pending = before ++ a :: later → ∀ m' s',
        (j'.finish m' s').1.verdict = (j.finish m s).1.verdict ∧
        ∀ action, (j'.finish m' s').1.verdict.followUps action
          = (j.finish m s).1.verdict.followUps action
  /-- Every result that is heard is measured once. -/
  durations : ∀ m s module, (j.finish m s).2.1.durationCount module = m.durationCount module
    + (resultsOf (heard j.scoring j.collection j.pending)).countP fun r => r.module = module
  /-- Every failure that is heard is counted once. -/
  errors : ∀ m s module, (j.finish m s).2.1.moduleErrors.count module = m.moduleErrors.count module
    + (resultsOf (heard j.scoring j.collection j.pending)).countP fun r =>
        r.module = module ∧ r.action = .error

variable {config : Config} {runs : List (Checker σ × CheckRun)} {j : Judging σ}

/-- What is decided on when collection does not stop: the `opinion` of every check. -/
theorem complete_of_perm (hcollection : j.collection = .empty)
    (horder : j.pending.Perm (outcomes config 0 runs)) {m : Metrics} {s : σ}
    (h : (j.finish m s).1.verdict.breakerTripped = false) :
    (j.finish m s).1.verdict.results.map CheckResult.unweighted
        = (runs.filterMap (opinion config)).map CheckResult.normalized ∧
      heard j.scoring j.collection j.pending = j.pending := by
  have hall : (j.collection.addAll j.scoring (brought j.pending)).tripped = false := by
    rw [verdict_finish] at h
    exact h
  refine ⟨?_, heard_of_not_tripped hall⟩
  have hcollected : (j.collection.addAll j.scoring (brought j.pending)).collected
      = (brought j.pending).map Collection.entry := by
    rw [Collection.collected_addAll hall, hcollection]
    rfl
  rw [verdict_finish, Collection.results_verdict hcollected, inOrder_outcomes horder]

/-- Where collection stops, if it has `tripped` in the end. -/
theorem exists_stop (hcollection : j.collection = .empty) {m : Metrics} {s : σ}
    (h : (j.finish m s).1.verdict.breakerTripped = true) :
    ∃ before a after r, j.pending = before ++ a :: after ∧ a.result = some r ∧
      Collection.StopsAt j.scoring (brought before) (a.place, r) := by
  rw [verdict_finish, hcollection] at h
  obtain ⟨before, a, after, hpending, hbefore, ha⟩ := exists_first
    (P := fun l => ((Collection.empty : Collection Float).addAll j.scoring (brought l)).tripped = true)
    (by simp [brought, Collection.empty]) h
  rw [brought_append] at ha
  cases hr : a.result with
  | none =>
    -- an abstention stops nothing
    rw [brought_cons_none hr, show brought ([] : List (Arrival σ)) = [] from rfl,
      List.append_nil] at ha
    exact absurd ha hbefore
  | some r =>
    rw [brought_cons_some hr] at ha
    exact ⟨before, a, after, r, hpending, hr, ⟨by simpa using hbefore, ha⟩⟩

/-- Judgings that agree up to the arrival that stops collection, where `StopsAt` holds, come to the same
verdict. -/
theorem verdict_of_stops {before after : List (Arrival σ)} {r : CheckResult Float}
    (hcollection : j.collection = .empty) (hpending : j.pending = before ++ a :: after)
    (hr : a.result = some r) (h : Collection.StopsAt j.scoring (brought before) (a.place, r))
    (m : Metrics) (s : σ) : (j.finish m s).1.verdict
      = (Collection.empty.addAll j.scoring (brought before ++ [(a.place, r)])).verdict j.scoring := by
  rw [verdict_finish, hcollection, hpending, brought_append, brought_cons_some hr, h.addAll_eq]

theorem accounted (hcollection : j.collection = .empty)
    (horder : j.pending.Perm (outcomes config 0 runs)) : Accounted config runs j where
  named _ _ _ := module_opinion
  abstains _ _ := opinion_eq_none_iff
  complete _ _ := complete_of_perm hcollection horder
  cut m s htripped := by
    obtain ⟨before, a, after, r, hpending, hr, hstop⟩ := exists_stop hcollection htripped
    have hverdict := verdict_of_stops hcollection hpending hr hstop
    have hbrought : brought (before ++ [a]) = brought before ++ [(a.place, r)] := by
      rw [brought_append, brought_cons_some hr]
      rfl
    refine ⟨before, a, after, r, hpending, hr, hstop, ?_, ?_, ?_⟩
    · rw [hverdict, Collection.results_verdict hstop.collected_eq, hbrought]
    · rw [hcollection, hpending, heard_of_stops hr hstop]
    · intro j' later hscoring' hcollection' hpending' m' s'
      have hsame : (j'.finish m' s').1.verdict = (j.finish m s).1.verdict := by
        rw [hverdict m s, verdict_of_stops (hcollection'.trans hcollection) hpending' hr
          (hscoring' ▸ hstop), hscoring']
      exact ⟨hsame, fun action => by rw [hsame]⟩
  durations m s module := by
    rw [metrics_finish, durationCount_measureAll]
  errors m s module := by
    rw [metrics_finish, errorCount_measureAll]

end Judging

/-- **What becomes of the outcomes** of the enabled checkers, whatever they are and in whatever order
they arrive, is in `Judging.Accounted`. -/
theorem judging_accounts {σ : Type} (config : Config) :
    (∀ (runs : List (Checker σ × CheckRun)) (j : Judging σ), j.collection = .empty →
      j.pending.Perm (Judging.outcomes config 0 runs) → Judging.Accounted config runs j) ∧
    (∀ (registry : Registry σ) (ctx : CheckContext) (now : Timestamp) (s : σ),
      ∃ runs, runs.map Prod.fst = registry.enabled ∧
        Judging.Accounted config runs (Judging.start registry config ctx now s).1) := by
  refine ⟨fun runs j hcollection horder => Judging.accounted hcollection horder, ?_⟩
  intro registry ctx now s
  obtain ⟨runs, hnames, horder⟩ := Judging.perm_start registry config ctx now s
  exact ⟨runs, hnames, Judging.accounted rfl horder⟩

/-- A check that can be cancelled, and one that fails before it is done. -/
theorem judging_accounts_swapped :
    let rspamd : Checker Unit := { name := "rspamd" }
    let rules : Checker Unit := { name := "rules" }
    let runs : List (Checker Unit × CheckRun) :=
      [(rspamd, ⟨20, .opinion (CheckResult.new .reject 5.0), true⟩),
        (rules, ⟨10, .failed "no such rule", false⟩)]
    let j : Judging Unit :=
      { scoring := ({} : Config).scoring, pending := (Judging.outcomes {} 0 runs).reverse }
    j.pending.map (·.place) = [1, 0] ∧ j.pending.map (·.onCancel.isSome) = [false, true] ∧
      Judging.Accounted {} runs j := by
  intro rspamd rules runs j
  exact ⟨rfl, rfl, (judging_accounts {}).1 runs j rfl (List.reverse_perm _)⟩

end MailFilter
