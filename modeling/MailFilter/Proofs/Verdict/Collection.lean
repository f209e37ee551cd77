/-
Collecting results as they arrive.

Once collection has stopped it stays as it is, so there is one arrival at most that stops it, and what
has been collected is what has arrived by then. Until then nothing is left out.

* `collected_addAll`: collection that has not stopped has all that has arrived;
* `exists_stop`: collection that has stopped has been stopped by one of the arrivals;
* `StopsAt.addAll_eq`: what arrives later has no say.
-/
import Mathlib.Data.List.Induction
import Mathlib.Data.List.Nodup
import MailFilter.Verdict.Collection

namespace MailFilter

/-- What does not hold of the empty list but holds of `l` comes to hold with one of its elements. -/
theorem exists_first {α : Type} {P : List α → Prop} (hnil : ¬ P []) {l : List α} (h : P l) :
    ∃ before a after, l = before ++ a :: after ∧ ¬ P before ∧ P (before ++ [a]) := by
  induction l using List.reverseRecOn with
  | nil => exact absurd h hnil
  | append_singleton init a ih =>
    by_cases hinit : P init
    · obtain ⟨before, b, after, rfl, hbefore, hb⟩ := ih hinit
      exact ⟨before, b, after ++ [a], by simp, hbefore, hb⟩
    · exact ⟨init, a, [], rfl, hinit, h⟩

namespace Collection

/-! ### In the order of the modules -/

section

variable {ρ : Type}

/-- Results with places of their own come into the same order in `results`, however they have been
collected. -/
theorem results_of_perm {c c' : Collection ρ} (hplaces : (c.collected.map Prod.fst).Nodup)
    (h : c.collected.Perm c'.collected) : c.results = c'.results := by
  have hsorted : ∀ l : List (Nat × CheckResult ρ),
      (l.mergeSort fun a b => a.1 ≤ b.1).Pairwise fun a b => decide (a.1 ≤ b.1) = true :=
    List.pairwise_mergeSort
      (fun a b c hab hbc => by
        simp only [decide_eq_true_eq] at hab hbc ⊢
        exact Nat.le_trans hab hbc)
      (fun a b => by
        simp only [Bool.or_eq_true, decide_eq_true_eq]
        exact Nat.le_total a.1 b.1)
  have hperm : (c.collected.mergeSort fun a b => a.1 ≤ b.1).Perm
      (c'.collected.mergeSort fun a b => a.1 ≤ b.1) :=
    ((List.mergeSort_perm ..).trans h).trans (List.mergeSort_perm ..).symm
  have hmerge : (c.collected.mergeSort fun a b => a.1 ≤ b.1)
      = c'.collected.mergeSort fun a b => a.1 ≤ b.1 := by
    refine List.Perm.eq_of_pairwise (fun a b ha hb hab hba => ?_) (hsorted _) (hsorted _) hperm
    -- of two results with the same place there is only one
    have ha' := (List.mergeSort_perm ..).subset ha
    have hb' := h.symm.subset ((List.mergeSort_perm ..).subset hb)
    exact List.inj_on_of_nodup_map hplaces ha' hb'
      (Nat.le_antisymm (of_decide_eq_true hab) (of_decide_eq_true hba))
  rw [results, results, hmerge]

/-- Results that have been `collected` in the order of their places stay in it. -/
theorem results_of_pairwise {c : Collection ρ}
    (h : c.collected.Pairwise fun a b => a.1 < b.1) : c.results = c.collected.map (·.2) := by
  rw [results, List.mergeSort_of_pairwise]
  exact h.imp fun hlt => decide_eq_true (Nat.le_of_lt hlt)

end

variable {ρ : Type} [Score ρ] {scoring : Scoring ρ} {c : Collection ρ}
  {arrivals before after : List (Nat × CheckResult ρ)} {a : Nat × CheckResult ρ}

/-! ### One arrival -/

/-- A result as it is `collected`: with its place, and `normalized`. -/
def entry (arrival : Nat × CheckResult ρ) : Nat × CheckResult ρ :=
  (arrival.1, arrival.2.normalized)

theorem add_of_tripped (h : c.tripped = true) (place : Nat) (r : CheckResult ρ) :
    c.add scoring place r = c :=
  if_pos h

theorem add_of_not_tripped (h : c.tripped = false) (place : Nat) (r : CheckResult ρ) :
    c.add scoring place r =
      { collected := c.collected ++ [entry (place, r)]
        running := fun a => if a = r.normalized.action
          then Score.add (c.running r.normalized.action) r.score else c.running a
        tripped := Verdict.reaches (Score.add (c.running r.normalized.action) r.score)
          scoring.breakerThreshold } := by
  rw [add, if_neg (by simp [h])]
  rfl

/-! ### One after the other -/

@[simp] theorem addAll_nil : c.addAll scoring [] = c := rfl

@[simp] theorem addAll_cons :
    c.addAll scoring (a :: arrivals) = (c.add scoring a.1 a.2).addAll scoring arrivals := rfl

theorem addAll_append : c.addAll scoring (before ++ after)
    = (c.addAll scoring before).addAll scoring after :=
  List.foldl_append

/-- Collection that has `tripped` stays as it is. -/
theorem addAll_of_tripped (h : c.tripped = true) (arrivals : List (Nat × CheckResult ρ)) :
    c.addAll scoring arrivals = c := by
  induction arrivals with
  | nil => rfl
  | cons a rest ih => rw [addAll_cons, add_of_tripped h, ih]

theorem not_tripped_of_addAll (h : (c.addAll scoring arrivals).tripped = false) :
    c.tripped = false := by
  cases hc : c.tripped with
  | false => rfl
  | true => rw [addAll_of_tripped hc, hc] at h; cases h

/-- Collection that has not `tripped` has an `entry` for all that has arrived. -/
theorem collected_addAll (h : (c.addAll scoring arrivals).tripped = false) :
    (c.addAll scoring arrivals).collected = c.collected ++ arrivals.map entry := by
  induction arrivals generalizing c with
  | nil => simp
  | cons a rest ih =>
    have hc : c.tripped = false := not_tripped_of_addAll h
    rw [addAll_cons] at h ⊢
    rw [ih h, add_of_not_tripped hc]
    simp

/-! ### Where collection stops -/

/-- Collection goes on up to the arrival `a` and stops with it. -/
structure StopsAt (scoring : Scoring ρ) (before : List (Nat × CheckResult ρ))
    (a : Nat × CheckResult ρ) : Prop where
  goesOn : (empty.addAll scoring before).tripped = false
  stops : (empty.addAll scoring (before ++ [a])).tripped = true

/-- What arrives after collection `StopsAt` an arrival has no say. -/
theorem StopsAt.addAll_eq (h : StopsAt scoring before a) (after : List (Nat × CheckResult ρ)) :
    (empty : Collection ρ).addAll scoring (before ++ a :: after)
      = empty.addAll scoring (before ++ [a]) := by
  rw [List.append_cons, addAll_append, addAll_of_tripped h.stops]

/-- What has been `collected` where collection stops is what has arrived by then. -/
theorem StopsAt.collected_eq (h : StopsAt scoring before a) :
    ((empty : Collection ρ).addAll scoring (before ++ [a])).collected
      = (before ++ [a]).map entry := by
  rw [addAll_append, addAll_cons, addAll_nil, add_of_not_tripped h.goesOn,
    collected_addAll h.goesOn, List.map_append]
  rfl

/-- Collection that has `tripped` has been stopped by one of the arrivals. -/
theorem exists_stop (h : ((empty : Collection ρ).addAll scoring arrivals).tripped = true) :
    ∃ before a after, arrivals = before ++ a :: after ∧ StopsAt scoring before a := by
  obtain ⟨before, a, after, heq, hbefore, ha⟩ :=
    exists_first (P := fun l => ((empty : Collection ρ).addAll scoring l).tripped = true)
      (by simp [empty]) h
  exact ⟨before, a, after, heq, by simpa using hbefore, ha⟩

end Collection

end MailFilter
