/-
What is lost when collection stops.

The running scores are the sums of what has been collected. Where they stop collection for a disposition,
the results that are decided on have that score as well, and so have all results together if none of them
takes anything away. Hence a rejection for which collection has stopped is the rejection that all results
would have come to.

* `tallied_addAll`: running scores and collected results;
* `StopsAt.le_bucketSum`: what has been collected scores as much as has stopped collection;
* `StopsAt.le_bucketSum_complete`: and all results together no less;
* `rejection_outlasts_breaker`: the verdict and the one on all results.
-/
import MailFilter.Proofs.Verdict.Collection
import MailFilter.Proofs.Verdict.Ruling

namespace MailFilter

namespace Collection

open Verdict

variable {scoring : Scoring Rat} {c : Collection Rat} {before after : List (Nat × CheckResult Rat)}
  {a : Nat × CheckResult Rat}

/-! ### Running scores -/

/-- The `running` scores are those of what has been collected, disposition by disposition. -/
def Tallied (c : Collection Rat) : Prop :=
  ∀ action, c.running action = bucketSum action (c.collected.map (·.2))

theorem tallied_empty : Tallied empty :=
  fun _ => rfl

theorem scoreFor_normalized (action : Action) (r : CheckResult Rat) :
    scoreFor action r.normalized = if action = r.normalized.action then r.score else 0 := by
  rw [scoreFor]
  simp only [eq_comm (a := action)]
  rfl

theorem tallied_add (h : Tallied c) (scoring : Scoring Rat) (place : Nat) (r : CheckResult Rat) :
    Tallied (c.add scoring place r) := by
  intro action
  cases hc : c.tripped with
  | true =>
    rw [add_of_tripped hc]
    exact h action
  | false =>
    rw [add_of_not_tripped hc]
    simp only [List.map_append, List.map_cons, List.map_nil, entry, bucketSum_append, bucketSum_cons,
      bucketSum_nil, add_zero, scoreFor_normalized, ← h action, Score.add_eq]
    split_ifs with haction
    · rw [haction]
    · rw [add_zero]

theorem tallied_addAll (h : Tallied c) (scoring : Scoring Rat)
    (arrivals : List (Nat × CheckResult Rat)) : Tallied (c.addAll scoring arrivals) := by
  induction arrivals generalizing c with
  | nil => exact h
  | cons a rest ih => exact ih (tallied_add h scoring a.1 a.2)

theorem bucketSum_results (h : Tallied c) (action : Action) :
    bucketSum action c.results = c.running action := by
  rw [h action]
  exact bucketSum_perm ((List.mergeSort_perm ..).map _)

/-! ### Where collection stops -/

/-- What stops collection is the `running` score of the disposition that has arrived. -/
theorem StopsAt.reaches (h : StopsAt scoring before a) :
    Verdict.reaches ((empty.addAll scoring (before ++ [a])).running a.2.normalized.action)
      scoring.breakerThreshold = true := by
  have hstops := h.stops
  rw [addAll_append, addAll_cons, addAll_nil, add_of_not_tripped h.goesOn] at hstops ⊢
  simpa using hstops

/-- The results that are decided on score as much as has stopped collection: their `bucketSum` is not
below the threshold. -/
theorem StopsAt.le_bucketSum (h : StopsAt scoring before a) :
    scoring.breakerThreshold
      ≤ bucketSum a.2.normalized.action (empty.addAll scoring (before ++ [a])).results := by
  rw [bucketSum_results (tallied_addAll tallied_empty scoring _)]
  exact (reaches_iff.1 h.reaches).2

/-- All results together score no less, if none of them takes anything away from the `bucketSum`. -/
theorem StopsAt.le_bucketSum_complete (h : StopsAt scoring before a)
    (hnonneg : ∀ b ∈ after, 0 ≤ b.2.normalized.score) :
    scoring.breakerThreshold
      ≤ bucketSum a.2.normalized.action ((before ++ a :: after).map (·.2.normalized)) := by
  have hcollected : bucketSum a.2.normalized.action ((before ++ [a]).map (·.2.normalized))
      = bucketSum a.2.normalized.action (empty.addAll scoring (before ++ [a])).results := by
    rw [bucketSum_results (tallied_addAll tallied_empty scoring _),
      tallied_addAll tallied_empty scoring, h.collected_eq, List.map_map]
    rfl
  have hafter : 0 ≤ bucketSum a.2.normalized.action (after.map (·.2.normalized)) := by
    refine bucketSum_nonneg ?_
    intro r hr
    obtain ⟨b, hb, rfl⟩ := List.mem_map.1 hr
    exact hnonneg b hb
  calc scoring.breakerThreshold
      ≤ bucketSum a.2.normalized.action (empty.addAll scoring (before ++ [a])).results :=
        h.le_bucketSum
    _ ≤ bucketSum a.2.normalized.action ((before ++ [a]).map (·.2.normalized))
          + bucketSum a.2.normalized.action (after.map (·.2.normalized)) := by
        rw [hcollected]
        exact le_add_of_nonneg_right hafter
    _ = bucketSum a.2.normalized.action ((before ++ a :: after).map (·.2.normalized)) := by
        rw [← bucketSum_append, ← List.map_append, List.append_assoc]
        rfl

theorem verdict_of_ungrouped (hgroups : scoring.groups = []) (c : Collection Rat) :
    (c.verdict scoring).action = (decide scoring c.results).action := by
  rw [verdict, hgroups]
  rfl

end Collection

open Collection Verdict

/-- **A rejection for which collection has stopped is right.** Without groups, with scores that are not
negative and a threshold for rejecting that is not above the one for stopping: where collection stops
with a rejecting result, the verdict is a rejection, and so is the one on all results in any order,
whatever is still to come. (Judging collects what arrives in just this way: `Judging.verdict_finish`.) -/
theorem rejection_outlasts_breaker {scoring : Scoring Rat}
    {before after : List (Nat × CheckResult Rat)} {a : Nat × CheckResult Rat}
    (hgroups : scoring.groups = []) (hpositive : 0 < scoring.rejectThreshold)
    (hle : scoring.rejectThreshold ≤ scoring.breakerThreshold)
    (hnonneg : ∀ b ∈ before ++ a :: after, 0 ≤ b.2.normalized.score)
    (hstop : StopsAt scoring before a) (hreject : a.2.normalized.action = .reject)
    {complete : List (CheckResult Rat)}
    (hcomplete : complete.Perm ((before ++ a :: after).map (·.2.normalized))) :
    ((empty.addAll scoring (before ++ a :: after)).verdict scoring).action
      = (decide scoring complete).action ∧ (decide scoring complete).action = .reject := by
  have hverdict : ((empty.addAll scoring (before ++ a :: after)).verdict scoring).action = .reject := by
    rw [hstop.addAll_eq, verdict_of_ungrouped hgroups, action_eq_reject_iff]
    exact ⟨hpositive, hle.trans (hreject ▸ hstop.le_bucketSum)⟩
  have hall : (decide scoring complete).action = .reject := by
    rw [action_eq_reject_iff]
    refine ⟨hpositive, hle.trans ?_⟩
    rw [bucketSum_perm hcomplete, ← hreject]
    refine hstop.le_bucketSum_complete ?_
    intro b hb
    exact hnonneg b (by simp [hb])
  exact ⟨hverdict.trans hall.symm, hall⟩

/-- A result that rejects by far stops collection, between one that has deferred and a check that is still
to fail. -/
theorem rejection_outlasts_breaker_blocked :
    let scoring : Scoring Rat := ⟨5, 5, 25, 5, 25, []⟩
    let slow : CheckResult Rat := { CheckResult.new .tempfail 20 with module := "rules" }
    let blocked : CheckResult Rat :=
      { CheckResult.new .reject 30 with module := "rspamd", message := "Looks like spam" }
    let failed : CheckResult Rat := .failed "quotas" "timed out" 25
    let before : List (Nat × CheckResult Rat) := [(1, slow)]
    let after : List (Nat × CheckResult Rat) := [(2, failed)]
    StopsAt scoring before (0, blocked) ∧
    (decide scoring [blocked, slow, failed]).action = .reject ∧
    ((empty.addAll scoring (before ++ (0, blocked) :: after)).verdict scoring).action
      = (decide scoring [blocked, slow, failed]).action := by
  intro scoring slow blocked failed before after
  have hstop : StopsAt scoring before (0, blocked) := ⟨by decide +kernel, by decide +kernel⟩
  have hnonneg : ∀ b ∈ before ++ (0, blocked) :: after, 0 ≤ b.2.normalized.score := by
    decide +kernel
  have hcomplete : [blocked, slow, failed].Perm
      ((before ++ (0, blocked) :: after).map (·.2.normalized)) :=
    .swap slow.normalized blocked.normalized [failed.normalized]
  obtain ⟨hsame, hall⟩ := rejection_outlasts_breaker rfl (by decide +kernel) (by decide +kernel)
    hnonneg hstop rfl hcomplete
  exact ⟨hstop, hall, hsame⟩

end MailFilter
