/-
Exact scores.

On rationals the rules of scoring are arithmetic: a score that has been summed up is the sum, and a
threshold that is switched on is reached by what is not below it.

* `Score.sum_eq`: summing up scores;
* `Verdict.reaches_iff`: reaching a threshold;
* `Verdict.bucketScore_eq`: the score of a disposition;
* `Verdict.bucketSum_perm`: the order of the results has no say in it.
-/
import Mathlib.Algebra.BigOperators.Group.List.Basic
import Mathlib.Algebra.Order.BigOperators.Group.List
import Mathlib.Algebra.Order.Ring.Rat
import MailFilter.Verdict.Basic

namespace MailFilter

namespace Score

theorem sum_eq (scores : List Rat) : sum scores = scores.sum :=
  List.sum_eq_foldl.symm

@[simp] theorem add_eq (a b : Rat) : add a b = a + b := rfl

@[simp] theorem le_iff {a b : Rat} : le a b = true ↔ a ≤ b :=
  decide_eq_true_iff

theorem le_zero_eq_false {x : Rat} : le x zero = false ↔ 0 < x :=
  decide_eq_false_iff_not.trans not_le

@[simp] theorem isPositive_iff {x : Rat} : isPositive x = true ↔ 0 < x := by
  rw [isPositive, lt, Bool.and_eq_true, Bool.not_eq_true', le_zero_eq_false, le_iff]
  exact and_iff_right_of_imp le_of_lt

end Score

namespace Verdict

theorem reaches_iff {score threshold : Rat} :
    reaches score threshold = true ↔ 0 < threshold ∧ threshold ≤ score := by
  simp [reaches]

/-- What the results with one disposition score together. -/
def bucketSum (action : Action) (results : List (CheckResult Rat)) : Rat :=
  ((results.filter fun r => r.action = action).map (·.weightedScore)).sum

theorem bucketScore_eq (action : Action) (results : List (CheckResult Rat)) :
    bucketScore action results = bucketSum action results :=
  Score.sum_eq _

/-- What one result adds to the score of a disposition. -/
def scoreFor (action : Action) (r : CheckResult Rat) : Rat :=
  if r.action = action then r.weightedScore else 0

variable {action : Action} {results results' : List (CheckResult Rat)} {r : CheckResult Rat}

theorem scoreFor_nonneg (action : Action) (h : 0 ≤ r.weightedScore) : 0 ≤ scoreFor action r := by
  rw [scoreFor]
  split_ifs
  · exact h
  · exact le_refl 0

@[simp] theorem bucketSum_nil : bucketSum action [] = 0 := rfl

@[simp] theorem bucketSum_cons :
    bucketSum action (r :: results) = scoreFor action r + bucketSum action results := by
  by_cases h : r.action = action <;> simp [bucketSum, scoreFor, h]

@[simp] theorem bucketSum_append :
    bucketSum action (results ++ results') = bucketSum action results + bucketSum action results' := by
  simp [bucketSum]

theorem bucketSum_perm (h : results.Perm results') :
    bucketSum action results = bucketSum action results' :=
  ((h.filter _).map _).sum_eq

theorem bucketSum_nonneg (h : ∀ r ∈ results, 0 ≤ r.weightedScore) : 0 ≤ bucketSum action results := by
  refine List.sum_nonneg ?_
  intro x hx
  obtain ⟨r, hr, rfl⟩ := List.mem_map.1 hx
  exact h r (List.mem_filter.1 hr).1

end Verdict

end MailFilter
