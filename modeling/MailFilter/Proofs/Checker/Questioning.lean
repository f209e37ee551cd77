/-
What comes of putting a recipient to the checkers.

They are asked in turn, and each may do to the memory what it likes. The answer is told by what each of
them says, and of that by little: the first refusal for good, else the first for now.

* `recipientCheckFrom_eq`: the answer, and up to which checker the questioning goes;
* `comes_askFrom`: a filter that waits for the checks that take their time comes to the same;
* `action_conclusion`: the disposition does not depend on the order of what is said;
* `gate_answers`: all of that for the checkers of a registry.
-/
import Mathlib.Data.List.Basic
import MailFilter.Checker.Registry
import MailFilter.Checker.Scripted

namespace MailFilter

variable {σ : Type}

/-! ### What a checker says -/

namespace GateOutcome

/-- The refusal for good that an outcome is, if it is one. -/
def refusal? : GateOutcome → Option RecipientVerdict
  | verdict v => if v.action = .reject then some v else none
  | failed _ | panicked _ => none

/-- What the client is told of a refusal for now, if an outcome is one. A failed check is. -/
def deferral? : GateOutcome → Option String
  | verdict v =>
    match v.action with
    | .tempfail | .error => some v.message
    | .permit | .reject => none
  | failed _ => some Registry.gateFailureText
  | panicked _ => none

/-- The answer that `outcomes` amount to, when a `text` may have been kept from earlier ones: the first
`refusal?`, else the first `deferral?`. -/
def conclusion (text : Option String) (outcomes : List GateOutcome) : RecipientVerdict :=
  (outcomes.findSome? refusal?).getD
    (((text.or (outcomes.findSome? deferral?)).map .tempfail).getD .permit)

theorem conclusion_cons_of_refusal {o : GateOutcome} {v : RecipientVerdict}
    (h : o.refusal? = some v) (text : Option String) (outcomes : List GateOutcome) :
    conclusion text (o :: outcomes) = v := by
  rw [conclusion, List.findSome?_cons, h]
  rfl

theorem conclusion_cons {o : GateOutcome} (h : o.refusal? = none) (text : Option String)
    (outcomes : List GateOutcome) :
    conclusion text (o :: outcomes) = conclusion (text.or o.deferral?) outcomes := by
  rw [conclusion, conclusion, List.findSome?_cons, h, List.findSome?_cons, Option.or_assoc]
  cases o.deferral? <;> rfl

/-- What does not refuse for good goes into the text that `conclusion` keeps. -/
theorem conclusion_append {before : List GateOutcome} (h : ∀ o ∈ before, o.refusal? = none)
    (text : Option String) (later : List GateOutcome) :
    conclusion text (before ++ later)
      = conclusion (text.or (before.findSome? deferral?)) later := by
  rw [conclusion, conclusion, List.findSome?_append, List.findSome?_append,
    List.findSome?_eq_none_iff.2 h, Option.none_or, Option.or_assoc]

theorem conclusion_of_no_refusal {outcomes : List GateOutcome}
    (h : ∀ o ∈ outcomes, o.refusal? = none) :
    conclusion none outcomes = ((outcomes.findSome? deferral?).map .tempfail).getD .permit := by
  rw [conclusion, List.findSome?_eq_none_iff.2 h, Option.none_or]
  rfl

theorem action_of_refusal {o : GateOutcome} {v : RecipientVerdict} (h : o.refusal? = some v) :
    v.action = .reject := by
  cases o with
  | verdict v' =>
    rw [refusal?, Option.ite_none_right_eq_some, Option.some.injEq] at h
    exact h.2 ▸ h.1
  | failed reason | panicked p => cases h

/-- The disposition of a `conclusion` is told by what is said at all. -/
theorem action_conclusion (outcomes : List GateOutcome) :
    (conclusion none outcomes).action
      = if outcomes.any (·.refusal?.isSome) then .reject
        else if outcomes.any (·.deferral?.isSome) then .tempfail else .permit := by
  rw [← List.isSome_findSome?, ← List.isSome_findSome?, conclusion, Option.none_or]
  cases hrefusal : outcomes.findSome? refusal? with
  | some v =>
    obtain ⟨o, -, ho⟩ := List.exists_of_findSome?_eq_some hrefusal
    exact action_of_refusal ho
  | none => cases outcomes.findSome? deferral? <;> rfl

theorem action_conclusion_of_perm {outcomes outcomes' : List GateOutcome}
    (h : outcomes.Perm outcomes') :
    (conclusion none outcomes).action = (conclusion none outcomes').action := by
  rw [action_conclusion, action_conclusion, h.any_eq, h.any_eq]

theorem action_conclusion_ne (outcomes : List GateOutcome) :
    (conclusion none outcomes).action ≠ .error := by
  rw [action_conclusion]
  split
  · simp
  · split <;> simp

end GateOutcome

namespace Registry

theorem refusal?_of_reject {o : GateOutcome} {v : RecipientVerdict} (h : answerOf o = .ok v)
    (hv : v.action = .reject) : o.refusal? = some v := by
  cases o with
  | verdict v' =>
    obtain rfl := Except.ok.inj h
    exact if_pos hv
  | failed reason =>
    obtain rfl := Except.ok.inj h
    cases hv
  | panicked p => cases h

theorem refusal?_of_ne_reject {o : GateOutcome} {v : RecipientVerdict} (h : answerOf o = .ok v)
    (hv : v.action ≠ .reject) : o.refusal? = none := by
  cases o with
  | verdict v' =>
    obtain rfl := Except.ok.inj h
    exact if_neg hv
  | failed reason => rfl
  | panicked p => rfl

/-- What `remember` keeps after an answer is the first text. -/
theorem remember_eq {o : GateOutcome} {v : RecipientVerdict} (h : answerOf o = .ok v)
    (text : Option String) :
    remember (text.map .tempfail) v = (text.or o.deferral?).map .tempfail := by
  cases o with
  | verdict v' =>
    obtain rfl := Except.ok.inj h
    obtain ⟨action, message⟩ := v'
    cases action <;> cases text <;> rfl
  | failed reason =>
    obtain rfl := Except.ok.inj h
    cases text <;> rfl
  | panicked p => cases h

/-! ### Asking in turn -/

variable {connection : Connection} {recipient : Address}

/-- What `Checker.gate` says of a recipient for each of the checkers, if they are all asked in turn. -/
def answers (connection : Connection) (recipient : Address) : List (Checker σ) → σ → List GateOutcome
  | [], _ => []
  | c :: cs, s =>
    (c.gate connection recipient s).1.outcome ::
      answers connection recipient cs (c.gate connection recipient s).2

/-- The memory when `Checker.gate` has asked the checkers in turn. -/
def asked (connection : Connection) (recipient : Address) (cs : List (Checker σ)) (s : σ) : σ :=
  cs.foldl (fun s c => (c.gate connection recipient s).2) s

theorem length_answers (cs : List (Checker σ)) (s : σ) :
    (answers connection recipient cs s).length = cs.length := by
  induction cs generalizing s with
  | nil => rfl
  | cons c cs ih => rw [answers, List.length_cons, List.length_cons, ih]

/-- The answer of `recipientCheckFrom` is the `conclusion` from all that the checkers say, and after the
first one that refuses for good no other is asked. -/
theorem recipientCheckFrom_eq (text : Option String) {cs : List (Checker σ)} {s : σ}
    (h : ∀ o ∈ answers connection recipient cs s, ∀ p, o ≠ .panicked p) :
    recipientCheckFrom connection recipient (text.map .tempfail) cs s
      = (.ok (GateOutcome.conclusion text (answers connection recipient cs s)),
        asked connection recipient
          (cs.take ((answers connection recipient cs s).findIdx (·.refusal?.isSome) + 1)) s) := by
  induction cs generalizing text s with
  | nil => cases text <;> rfl
  | cons c cs ih =>
    rw [answers, List.forall_mem_cons] at h
    obtain ⟨hpanic, hrest⟩ := h
    rw [recipientCheckFrom, answers]
    dsimp only
    cases hanswer : answerOf (c.gate connection recipient s).1.outcome with
    | error p =>
      exfalso
      cases houtcome : (c.gate connection recipient s).1.outcome with
      | panicked p => exact hpanic p houtcome
      | verdict v | failed reason =>
        rw [houtcome] at hanswer
        cases hanswer
    | ok v =>
      dsimp only
      by_cases hv : v.action = .reject
      · have hrefusal := refusal?_of_reject hanswer hv
        rw [if_pos hv, GateOutcome.conclusion_cons_of_refusal hrefusal, List.findIdx_cons, hrefusal]
        rfl
      · have hnone := refusal?_of_ne_reject hanswer hv
        rw [if_neg hv, remember_eq hanswer, ih _ hrest, GateOutcome.conclusion_cons hnone,
          List.findIdx_cons, hnone]
        rfl

/-! ### Waiting for the checks -/

/-- A `Gating` comes to an answer, and to a memory, when each check that takes its time is waited for and
nothing else touches the memory meanwhile. -/
inductive Comes (connection : Connection) (recipient : Address) :
    Gating σ × σ → Except Panic RecipientVerdict × σ → Prop where
  | decided (answer : Except Panic RecipientVerdict) (s : σ) :
      Comes connection recipient (.decided answer, s) (answer, s)
  | waited {ms : Nat} {outcome : GateOutcome} {deferred : Option RecipientVerdict}
      {rest : List (Checker σ)} {s : σ} {result : Except Panic RecipientVerdict × σ}
      (h : Comes connection recipient (askOn connection recipient outcome deferred rest s) result) :
      Comes connection recipient (.waiting ms outcome deferred rest, s) result

/-- What `askFrom` begins comes to the same as if no check took any time: to what `recipientCheckFrom`
says. -/
theorem comes_askFrom (deferred : Option RecipientVerdict) (cs : List (Checker σ)) (s : σ) :
    Comes connection recipient (askFrom connection recipient deferred cs s)
      (recipientCheckFrom connection recipient deferred cs s) := by
  induction cs generalizing deferred s with
  | nil => exact .decided _ s
  | cons c cs ih =>
    -- the answer of this checker is taken in at once, or after it has been waited for
    have hon : Comes connection recipient
        (askOn connection recipient (c.gate connection recipient s).1.outcome deferred cs
          (c.gate connection recipient s).2)
        (recipientCheckFrom connection recipient deferred (c :: cs) s) := by
      rw [askOn, recipientCheckFrom]
      dsimp only
      cases answerOf (c.gate connection recipient s).1.outcome with
      | error p => exact .decided _ _
      | ok v =>
        dsimp only
        by_cases hv : v.action = .reject
        · rw [if_pos hv, if_pos hv]
          exact .decided _ _
        · rw [if_neg hv, if_neg hv]
          exact ih ..
    rw [askFrom]
    dsimp only
    by_cases hdelay : (c.gate connection recipient s).1.delayMs = 0
    · rw [if_pos hdelay]
      exact hon
    · rw [if_neg hdelay]
      exact .waited hon

/-! ### Checkers in another order -/

/-- Asking the checker `c` does not change what `d` says. -/
def Apart (connection : Connection) (recipient : Address) (c d : Checker σ) : Prop :=
  ∀ s, (d.gate connection recipient (c.gate connection recipient s).2).1.outcome
    = (d.gate connection recipient s).1.outcome

theorem answers_eq_map {cs : List (Checker σ)} (h : cs.Pairwise (Apart connection recipient)) (s : σ) :
    answers connection recipient cs s = cs.map fun c => (c.gate connection recipient s).1.outcome := by
  induction cs generalizing s with
  | nil => rfl
  | cons c cs ih =>
    obtain ⟨hc, hcs⟩ := List.pairwise_cons.1 h
    rw [answers, ih hcs, List.map_cons]
    exact congrArg _ (List.map_congr_left fun d hd => hc d hd s)

theorem answers_perm {cs cs' : List (Checker σ)} (hperm : cs'.Perm cs)
    (h : cs.Pairwise fun c d => Apart connection recipient c d ∧ Apart connection recipient d c)
    (s : σ) :
    (answers connection recipient cs' s).Perm (answers connection recipient cs s) := by
  have h' := (hperm.pairwise_iff fun hcd => ⟨hcd.2, hcd.1⟩).2 h
  rw [answers_eq_map (h.imp And.left), answers_eq_map (h'.imp And.left)]
  exact hperm.map _

/-! ### The checkers of a registry -/

/-- The answer for a recipient, by the `answers` of the enabled checkers. -/
structure Answers (r : Registry σ) (connection : Connection) (recipient : Address) (s : σ) : Prop where
  /-- The first refusal for good is the answer, and no checker is asked after it. -/
  refused : ∀ before v later, answers connection recipient r.enabled s = before ++ .verdict v :: later →
    v.action = .reject → (∀ o ∈ before, o.refusal? = none) →
    r.recipientCheck connection recipient s
      = (.ok v, asked connection recipient (r.enabled.take (before.length + 1)) s)
  /-- Without one, the first refusal for now is. -/
  deferred : (∀ o ∈ answers connection recipient r.enabled s, o.refusal? = none) →
    ∀ before o text later, answers connection recipient r.enabled s = before ++ o :: later →
      o.deferral? = some text → (∀ o' ∈ before, o'.deferral? = none) →
      r.recipientCheck connection recipient s
        = (.ok (.tempfail text), asked connection recipient r.enabled s)
  /-- Without any, the recipient is accepted. -/
  permitted : (∀ o ∈ answers connection recipient r.enabled s,
      o.refusal? = none ∧ o.deferral? = none) →
    r.recipientCheck connection recipient s
      = (.ok .permit, asked connection recipient r.enabled s)
  /-- The filter, which waits for the checks that take their time, comes to the same answer. -/
  comes : Comes connection recipient (r.ask connection recipient s)
    (r.recipientCheck connection recipient s)
  /-- There is an answer, its disposition is not an error, and it is the same if the same is said in
  another order, by whichever checkers. -/
  ordered : ∃ action, action ≠ .error ∧ ∀ (r' : Registry σ) (s' : σ),
    (answers connection recipient r'.enabled s').Perm
      (answers connection recipient r.enabled s) →
    (r'.recipientCheck connection recipient s').1.map (·.action) = .ok action
  /-- So it is the same for every order of the checkers, if they have no influence on one another. -/
  permuted : r.enabled.Pairwise
      (fun c d => Apart connection recipient c d ∧ Apart connection recipient d c) →
    ∀ r' : Registry σ, r'.enabled.Perm r.enabled →
      (r'.recipientCheck connection recipient s).1.map (·.action)
        = (r.recipientCheck connection recipient s).1.map (·.action)

theorem recipientCheck_eq {r : Registry σ} {s : σ}
    (h : ∀ o ∈ answers connection recipient r.enabled s, ∀ p, o ≠ .panicked p) :
    r.recipientCheck connection recipient s
      = (.ok (GateOutcome.conclusion none (answers connection recipient r.enabled s)),
        asked connection recipient (r.enabled.take
          ((answers connection recipient r.enabled s).findIdx (·.refusal?.isSome) + 1)) s) :=
  recipientCheckFrom_eq none h

/-- Where nobody refuses for good, all are asked. -/
theorem take_findIdx_of_none {cs : List (Checker σ)} {s : σ}
    (h : ∀ o ∈ answers connection recipient cs s, o.refusal? = none) :
    cs.take ((answers connection recipient cs s).findIdx (·.refusal?.isSome) + 1) = cs := by
  have hlength : (answers connection recipient cs s).findIdx (·.refusal?.isSome)
      = (answers connection recipient cs s).length :=
    List.findIdx_eq_length_of_false fun o ho => by rw [h o ho]; rfl
  rw [hlength, length_answers]
  exact List.take_of_length_le (Nat.le_succ _)

theorem map_action_recipientCheck {r : Registry σ} {s : σ}
    (h : ∀ o ∈ answers connection recipient r.enabled s, ∀ p, o ≠ .panicked p) :
    (r.recipientCheck connection recipient s).1.map (·.action)
      = .ok (GateOutcome.conclusion none (answers connection recipient r.enabled s)).action := by
  rw [recipientCheck_eq h]
  rfl

/-- **The recipient gate** gives the `Answers`: the first checker that refuses a recipient for good has
the last word; if there is none, the first that refuses it for now or fails has; otherwise it is
accepted. -/
theorem gate_answers (r : Registry σ) {s : σ}
    (h : ∀ o ∈ answers connection recipient r.enabled s, ∀ p, o ≠ .panicked p) :
    Answers r connection recipient s where
  refused := by
    intro before v later heq hv hbefore
    have hrefusal : GateOutcome.refusal? (.verdict v) = some v := if_pos hv
    -- whoever comes after the first refusal is not asked
    have hindex : (answers connection recipient r.enabled s).findIdx (·.refusal?.isSome)
        = before.length := by
      have hskip : before.findIdx (·.refusal?.isSome) = before.length :=
        List.findIdx_eq_length_of_false fun o ho => by rw [hbefore o ho]; rfl
      rw [heq, List.findIdx_append, if_neg (by rw [hskip]; exact Nat.lt_irrefl _),
        List.findIdx_cons, hrefusal]
      exact Nat.zero_add _
    rw [recipientCheck_eq h, hindex, heq, GateOutcome.conclusion_append hbefore,
      GateOutcome.conclusion_cons_of_refusal hrefusal]
  deferred := by
    intro hnone before o text later heq ho hbefore
    have hfirst : (answers connection recipient r.enabled s).findSome? GateOutcome.deferral?
        = some text := by
      rw [heq, List.findSome?_append, List.findSome?_eq_none_iff.2 hbefore, List.findSome?_cons, ho]
      rfl
    rw [recipientCheck_eq h, take_findIdx_of_none hnone,
      GateOutcome.conclusion_of_no_refusal hnone, hfirst]
    rfl
  permitted := by
    intro hnone
    have hrefusal := fun o ho => (hnone o ho).1
    have hfirst := List.findSome?_eq_none_iff.2 fun o ho => (hnone o ho).2
    rw [recipientCheck_eq h, take_findIdx_of_none hrefusal,
      GateOutcome.conclusion_of_no_refusal hrefusal, hfirst]
    rfl
  comes := comes_askFrom none r.enabled s
  ordered := by
    refine ⟨_, GateOutcome.action_conclusion_ne (answers connection recipient r.enabled s),
      fun r' s' hperm => ?_⟩
    rw [map_action_recipientCheck fun o ho => h o (hperm.subset ho)]
    exact congrArg _ (GateOutcome.action_conclusion_of_perm hperm)
  permuted := by
    intro hapart r' hperm
    have hanswers := answers_perm hperm hapart s
    rw [map_action_recipientCheck h,
      map_action_recipientCheck fun o ho => h o (hanswers.subset ho)]
    exact congrArg _ (GateOutcome.action_conclusion_of_perm hanswers)

/-- Four checkers: one is busy, one fails, one refuses every recipient, and one has nothing against
any. -/
def desks : Registry Journal :=
  ⟨[Script.checker { name := "busy", gate := some { outcome := .verdict ⟨.error, "Later"⟩ } },
    Script.checker { name := "broken", gate := some { outcome := .failed "Timeout", delayMs := 50 } },
    Script.checker { name := "strict", gate := some { outcome := .verdict (.reject "Unknown") } },
    Script.checker { name := "mild", gate := some { outcome := .verdict .permit } }]⟩

/-- Of the four `desks` the third has the last word, and the fourth is not asked. -/
theorem gate_answers_refused :
    (∀ o ∈ answers {} .null desks.enabled {}, ∀ p, o ≠ .panicked p) ∧
    Answers desks {} .null {} ∧
    (desks.recipientCheck {} .null {}).1 = .ok (.reject "Unknown") ∧
    (desks.recipientCheck {} .null {}).2.events.length = 3 := by
  have hsaid : answers {} .null desks.enabled {}
      = [.verdict ⟨.error, "Later"⟩, .failed "Timeout", .verdict (.reject "Unknown"),
        .verdict .permit] := rfl
  have hpanic : ∀ o ∈ answers {} .null desks.enabled {}, ∀ p, o ≠ .panicked p := by
    rw [hsaid]
    simp
  have hanswers : Answers desks {} .null {} := gate_answers desks hpanic
  have hrefused := hanswers.refused [.verdict ⟨.error, "Later"⟩, .failed "Timeout"] (.reject "Unknown")
    [.verdict .permit] hsaid rfl (by decide)
  refine ⟨hpanic, hanswers, ?_, ?_⟩
  · rw [hrefused]
  · rw [hrefused]
    rfl

end Registry

end MailFilter
