/-
More evidence against a message.

A further result that does not score below zero, a higher score, or a rejection in the place of a
deferral: none of them takes anything from the rejecting scores, nor from the rejecting and deferring
scores together, and no check that has failed comes to have succeeded. So the verdict never becomes
milder.

* `Heavier`: what has to grow for a verdict to be no milder;
* `heavier_of_aggravates`: what a change of the results does to it;
* `severity_le_of_heavier`: the verdicts on two lists of results;
* `never_milder`: any number of changes.
-/
import Mathlib.Logic.Relation
import Mathlib.Tactic.Linarith
import MailFilter.Proofs.Verdict.Ruling

namespace MailFilter

/-- How severe a disposition is. A check that has failed defers a message. -/
def Action.severity : Action → Nat
  | .permit => 0
  | .tempfail | .error => 1
  | .reject => 2

namespace Verdict

variable {scoring : Scoring Rat} {before after results results' : List (CheckResult Rat)}
  {r r' : CheckResult Rat}

/-! ### What has to grow -/

/-- The evidence against a message is as great in `results'` as it is in `results`, or greater. -/
structure Heavier (results results' : List (CheckResult Rat)) : Prop where
  reject : bucketSum .reject results ≤ bucketSum .reject results'
  both : bucketSum .tempfail results + bucketSum .reject results
    ≤ bucketSum .tempfail results' + bucketSum .reject results'
  fails : Fails results → Fails results'

theorem Heavier.refl (results : List (CheckResult Rat)) : Heavier results results :=
  ⟨le_refl _, le_refl _, id⟩

theorem Heavier.trans {results'' : List (CheckResult Rat)} (h : Heavier results results')
    (h' : Heavier results' results'') : Heavier results results'' :=
  ⟨h.reject.trans h'.reject, h.both.trans h'.both, h'.fails ∘ h.fails⟩

theorem Heavier.rejects (h : Heavier results results') (hr : Rejects scoring results) :
    Rejects scoring results' :=
  ⟨hr.1, hr.2.trans h.reject⟩

theorem Heavier.defers (h : Heavier results results') (hd : Defers scoring results) :
    Defers scoring results' :=
  ⟨hd.1, hd.2.trans h.both⟩

/-- Where the evidence is `Heavier`, the verdict is no milder. -/
theorem severity_le_of_heavier (scoring : Scoring Rat) (h : Heavier results results') :
    (decide scoring results).action.severity ≤ (decide scoring results').action.severity := by
  rw [action_decide, action_decide]
  by_cases hreject : Rejects scoring results
  · rw [if_pos hreject, if_pos (h.rejects hreject)]
  · rw [if_neg hreject]
    by_cases hdefers : Fails results ∨ Defers scoring results
    · rw [if_pos hdefers, if_pos (hdefers.imp h.fails h.defers)]
      split_ifs <;> simp [Action.severity]
    · rw [if_neg hdefers]
      exact Nat.zero_le _

/-! ### Changes of the results -/

/-- A change that adds to the evidence against a message: there is a further result, or one weighs more,
or rejects what it has deferred. -/
inductive Aggravates : List (CheckResult Rat) → List (CheckResult Rat) → Prop
  /-- There is a further result, wherever it comes. -/
  | insert (before : List (CheckResult Rat)) (r : CheckResult Rat) (after : List (CheckResult Rat))
      (hscore : 0 ≤ r.weightedScore) : Aggravates (before ++ after) (before ++ r :: after)
  /-- A result scores more. -/
  | raise (before : List (CheckResult Rat)) (r : CheckResult Rat) (after : List (CheckResult Rat))
      (score : Rat) (hscore : r.weightedScore ≤ score) :
      Aggravates (before ++ r :: after) (before ++ { r with weightedScore := score } :: after)
  /-- A result rejects what it has deferred. -/
  | escalate (before : List (CheckResult Rat)) (r : CheckResult Rat)
      (after : List (CheckResult Rat)) (haction : r.action = .tempfail)
      (hscore : 0 ≤ r.weightedScore) :
      Aggravates (before ++ r :: after) (before ++ { r with action := .reject } :: after)

theorem bucketSum_at (action : Action) (before : List (CheckResult Rat)) (r : CheckResult Rat)
    (after : List (CheckResult Rat)) :
    bucketSum action (before ++ r :: after)
      = scoreFor action r + bucketSum action (before ++ after) := by
  rw [bucketSum_append, bucketSum_append, bucketSum_cons]
  exact add_left_comm ..

theorem fails_at : Fails (before ++ r :: after) ↔ r.action = .error ∨ Fails (before ++ after) := by
  simp only [Fails, List.mem_append, List.mem_cons, or_and_right, exists_or, exists_eq_left]
  exact or_left_comm

/-- Only what the changed result scores matters: the others weigh the same in `bucketSum`. -/
theorem heavier_at (hreject : scoreFor .reject r ≤ scoreFor .reject r')
    (hboth : scoreFor .tempfail r + scoreFor .reject r ≤ scoreFor .tempfail r' + scoreFor .reject r')
    (herror : r.action = .error → r'.action = .error) :
    Heavier (before ++ r :: after) (before ++ r' :: after) := by
  constructor
  · simp only [bucketSum_at]
    linarith
  · simp only [bucketSum_at]
    linarith
  · rw [fails_at, fails_at]
    exact Or.imp_left herror

theorem heavier_insert (hscore : 0 ≤ r.weightedScore) :
    Heavier (before ++ after) (before ++ r :: after) := by
  have hreject := scoreFor_nonneg .reject hscore
  have htempfail := scoreFor_nonneg .tempfail hscore
  constructor
  · rw [bucketSum_at]
    linarith
  · rw [bucketSum_at, bucketSum_at]
    linarith
  · rw [fails_at]
    exact .inr

/-- Every change that `Aggravates` adds to the evidence. -/
theorem heavier_of_aggravates (h : Aggravates results results') : Heavier results results' := by
  cases h with
  | insert before r after hscore => exact heavier_insert hscore
  | raise before r after score hscore =>
    have hgrows : ∀ action, scoreFor action r ≤ scoreFor action { r with weightedScore := score } := by
      intro action
      rw [scoreFor, scoreFor]
      split_ifs
      · exact hscore
      · exact le_refl 0
    exact heavier_at (hgrows .reject) (add_le_add (hgrows .tempfail) (hgrows .reject)) id
  | escalate before r after haction hscore =>
    -- the score moves from one sum to the other, and both of them count for deferring
    refine heavier_at ?_ ?_ ?_
    · simpa [scoreFor, haction] using hscore
    · simp [scoreFor, haction]
    · simp [haction]

/-- **More evidence never softens the verdict**, whatever the settings: not one change that `Aggravates`,
nor any number of them. -/
theorem never_milder (scoring : Scoring Rat) (h : Relation.ReflTransGen Aggravates results results') :
    (decide scoring results).action.severity ≤ (decide scoring results').action.severity := by
  refine severity_le_of_heavier scoring ?_
  induction h with
  | refl => exact Heavier.refl _
  | tail _ hstep ih => exact ih.trans (heavier_of_aggravates hstep)

/-- A message is permitted, deferred and rejected as a check finds more, another one fails and a third
one turns against it. -/
theorem never_milder_thrice :
    let scoring : Scoring Rat := ⟨5, 4, 25, 5, 25, []⟩
    let spam (score : Rat) : CheckResult Rat :=
      { CheckResult.new .reject 3 with module := "rspamd", weightedScore := score }
    let slow (action : Action) : CheckResult Rat := { CheckResult.new action 2 with module := "rules" }
    let failed : CheckResult Rat := .failed "quotas" "timed out" 25
    Relation.ReflTransGen Aggravates [spam 1, slow .tempfail] [failed, spam 3, slow .reject] ∧
    (decide scoring [spam 1, slow .tempfail]).action = .permit ∧
    (decide scoring [failed, spam 3, slow .tempfail]).action = .tempfail ∧
    (decide scoring [failed, spam 3, slow .reject]).action = .reject ∧
    (decide scoring [spam 1, slow .tempfail]).action.severity
      ≤ (decide scoring [failed, spam 3, slow .reject]).action.severity := by
  intro scoring spam slow failed
  have hraise : Aggravates [spam 1, slow .tempfail] [spam 3, slow .tempfail] :=
    .raise [] (spam 1) [slow .tempfail] 3 (by decide +kernel)
  have hinsert : Aggravates [spam 3, slow .tempfail] [failed, spam 3, slow .tempfail] :=
    .insert [] failed [spam 3, slow .tempfail] (by decide +kernel)
  have hescalate : Aggravates [failed, spam 3, slow .tempfail] [failed, spam 3, slow .reject] :=
    .escalate [failed, spam 3] (slow .tempfail) [] rfl (by decide +kernel)
  have hall := ((Relation.ReflTransGen.single hraise).tail hinsert).tail hescalate
  exact ⟨hall, by decide +kernel, by decide +kernel, by decide +kernel, never_milder scoring hall⟩

end Verdict

end MailFilter
