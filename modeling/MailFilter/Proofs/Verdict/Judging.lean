/-
Judging piece by piece.

What is collected for a message does not depend on when the arrivals are taken in, nor on what else
goes on meanwhile: the verdict is settled when the checks have been started.

* `receiveWhile_congr`: the memory of the checkers and the metrics have no say in the verdict;
* `finish_receiveWhile`: taking in some of the arrivals first changes nothing;
* `collection_finish`: what judging collects is what arrives, in the order in which it does;
* `Settles`: the verdict that judging will come to.
-/
import MailFilter.Proofs.Verdict.Collection
import MailFilter.Verdict.Judging

namespace MailFilter.Judging

variable {σ : Type} {p : Arrival σ → Bool} {j : Judging σ} {a : Arrival σ} {rest : List (Arrival σ)}

/-! ### Taking in -/

theorem receiveWhile_nil (h : j.pending = []) (m : Metrics) (s : σ) :
    receiveWhile p j m s = (j, m, s) := by
  rw [receiveWhile]
  split
  · rfl
  · next h' => simp [h] at h'

theorem receiveWhile_cons (h : j.pending = a :: rest) (m : Metrics) (s : σ) :
    receiveWhile p j m s =
      if p a then
        receiveWhile p (receive a { j with pending := rest } m s).1
          (receive a { j with pending := rest } m s).2.1
          (receive a { j with pending := rest } m s).2.2
      else (j, m, s) := by
  rw [receiveWhile]
  split
  · next h' => simp [h] at h'
  · next b rest' h' =>
    obtain ⟨rfl, rfl⟩ : a = b ∧ rest = rest' := by simpa [h] using h'
    rfl

theorem receive_congr (a : Arrival σ) (j : Judging σ) (m m' : Metrics) (s s' : σ) :
    (receive a j m s).1 = (receive a j m' s').1 := by
  unfold receive
  cases a.result with
  | none => rfl
  | some r =>
    dsimp only
    split <;> rfl

/-- The metrics and the memory have no say in what `receiveWhile` collects. -/
theorem receiveWhile_congr (p : Arrival σ → Bool) (j : Judging σ) (m m' : Metrics) (s s' : σ) :
    (receiveWhile p j m s).1 = (receiveWhile p j m' s').1 := by
  fun_induction receiveWhile p j m s generalizing m' s' with
  | case1 j m s h => rw [receiveWhile_nil h]
  | case2 j m s a rest h hp next ih =>
    -- whether an arrival is taken in is for the arrival alone to say
    rw [receiveWhile_cons h, if_pos hp, receive_congr a { j with pending := rest } m' m s' s]
    exact ih _ _
  | case3 j m s a rest h hp => rw [receiveWhile_cons h, if_neg hp]

theorem receive_memory (a : Arrival σ) (j : Judging σ) (m m' : Metrics) (s : σ) :
    (receive a j m s).2.2 = (receive a j m' s).2.2 := by
  unfold receive
  cases a.result with
  | none => rfl
  | some r =>
    dsimp only
    split <;> rfl

/-- What has been measured has no say in what `receiveWhile` makes of the memory. -/
theorem receiveWhile_memory (p : Arrival σ → Bool) (j : Judging σ) (m m' : Metrics) (s : σ) :
    (receiveWhile p j m s).2.2 = (receiveWhile p j m' s).2.2 := by
  fun_induction receiveWhile p j m s generalizing m' with
  | case1 j m s h => rw [receiveWhile_nil h]
  | case2 j m s a rest h hp next ih =>
    rw [receiveWhile_cons h, if_pos hp, receive_congr a { j with pending := rest } m' m s s,
      receive_memory a { j with pending := rest } m' m s]
    exact ih _
  | case3 j m s a rest h hp => rw [receiveWhile_cons h, if_neg hp]

/-- Taking in some of the arrivals first, and the rest with `finish`, changes nothing. -/
theorem finish_receiveWhile (p : Arrival σ → Bool) (j : Judging σ) (m m' : Metrics) (s s' : σ) :
    ((receiveWhile p j m s).1.finish m' s').1 = (j.finish m s).1 := by
  fun_induction receiveWhile p j m s generalizing m' s' with
  | case1 j m s h => exact receiveWhile_congr ..
  | case2 j m s a rest h hp next ih =>
    rw [ih]
    exact (congrArg Prod.fst ((receiveWhile_cons h m s).trans (if_pos rfl))).symm
  | case3 j m s a rest h hp => exact receiveWhile_congr ..

/-! ### What is collected -/

/-- The results that arrivals bring, each with the place of its checker: what `Collection.addAll` takes
in. -/
def brought (arrivals : List (Arrival σ)) : List (Nat × CheckResult Float) :=
  arrivals.filterMap fun a => a.result.map fun r => (a.place, r)

theorem brought_cons_none (h : a.result = none) (rest : List (Arrival σ)) :
    brought (a :: rest) = brought rest := by
  simp [brought, h]

theorem brought_cons_some {r : CheckResult Float} (h : a.result = some r)
    (rest : List (Arrival σ)) : brought (a :: rest) = (a.place, r) :: brought rest := by
  simp [brought, h]

theorem brought_append (before after : List (Arrival σ)) :
    brought (before ++ after) = brought before ++ brought after :=
  List.filterMap_append

theorem receiveWhile_scoring (p : Arrival σ → Bool) (j : Judging σ) (m : Metrics) (s : σ) :
    (receiveWhile p j m s).1.scoring = j.scoring := by
  fun_induction receiveWhile p j m s with
  | case1 | case3 => rfl
  | case2 j m s a rest h hp next ih =>
    rw [ih]
    show (receive a { j with pending := rest } m s).1.scoring = j.scoring
    unfold receive
    cases a.result with
    | none => rfl
    | some r =>
      dsimp only
      split <;> rfl

/-- Judging collects what arrives, in the order in which it does, by `Collection.addAll`. The checks that
are cancelled would have come too late. -/
theorem collection_finish (j : Judging σ) (m : Metrics) (s : σ) :
    (j.finish m s).1.collection = j.collection.addAll j.scoring (brought j.pending) := by
  unfold finish
  generalize hp : (fun _ : Arrival σ => true) = p
  fun_induction receiveWhile p j m s with
  | case1 j m s h => rw [h]; rfl
  | case3 j m s a rest h hnot => simp [← hp] at hnot
  | case2 j m s a rest h _ next ih =>
    rw [ih, h]
    show (receive a { j with pending := rest } m s).1.collection.addAll
      (receive a { j with pending := rest } m s).1.scoring
      (brought (receive a { j with pending := rest } m s).1.pending) = _
    unfold receive
    cases hr : a.result with
    | none => rw [brought_cons_none hr]
    | some r =>
      rw [brought_cons_some hr, Collection.addAll_cons]
      dsimp only
      split
      · next htrip =>
        -- collection has just stopped
        have hstop : (j.collection.add j.scoring a.place r).tripped = true := by
          simp only [Bool.and_eq_true] at htrip
          exact htrip.1
        simp only [cancel]
        rw [Collection.addAll_of_tripped hstop, Collection.addAll_of_tripped hstop]
      · rfl

/-- The verdict of judging is `Collection.verdict` on what has been collected. -/
theorem verdict_finish (j : Judging σ) (m : Metrics) (s : σ) :
    (j.finish m s).1.verdict
      = (j.collection.addAll j.scoring (brought j.pending)).verdict j.scoring := by
  rw [verdict, collection_finish, show (j.finish m s).1.scoring = j.scoring from
    receiveWhile_scoring ..]

/-! ### The verdict to come -/

/-- The verdict `v` is the one that judging will come to. -/
def Settles (j : Judging σ) (v : Verdict Float) : Prop :=
  ∀ m s, (j.finish m s).1.verdict = v

theorem Settles.unique {v v' : Verdict Float} (m : Metrics) (s : σ) (h : j.Settles v)
    (h' : j.Settles v') : v = v' :=
  (h m s).symm.trans (h' m s)

theorem settles_finish (j : Judging σ) (m : Metrics) (s : σ) :
    j.Settles (j.finish m s).1.verdict := by
  intro m' s'
  exact congrArg verdict (receiveWhile_congr ..)

/-- Once the checks have been started, the verdict is settled: it is that of `Registry.judge`. -/
theorem settles_start (registry : Registry σ) (config : Config) (ctx : CheckContext)
    (now : Timestamp) (m : Metrics) (s : σ) :
    (start registry config ctx now s).1.Settles (registry.judge config ctx now m s).1 :=
  settles_finish _ m _

theorem Settles.receiveWhile {v : Verdict Float} (h : j.Settles v) (p : Arrival σ → Bool)
    (m : Metrics) (s : σ) : (Judging.receiveWhile p j m s).1.Settles v := by
  intro m' s'
  rw [finish_receiveWhile]
  exact h m s

/-- When nothing is left to wait for, as `waitMs?` says, the verdict is there. -/
theorem Settles.verdict_eq {v : Verdict Float} (h : j.Settles v) (m : Metrics) (s : σ)
    (hw : j.waitMs? = none) : j.verdict = v := by
  have hnil : j.pending = [] := by simpa [waitMs?] using hw
  rw [← h m s, finish, receiveWhile_nil hnil]

end MailFilter.Judging
