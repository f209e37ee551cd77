/-
How results are decided on.

The scores of the rejecting results may reach their threshold; else a check that has failed defers the
message, or the deferring and rejecting scores together reach theirs. What the client is told is what the
first of the results says that score most among those with something to say.

* `leads_of_deciding`: the result that speaks for a disposition;
* `action_decide`: the disposition, by the sums of the scores;
* `decided_by_scores`: disposition, message and deciding module of a verdict.
-/
import Mathlib.Data.List.Induction
import MailFilter.Proofs.Verdict.Deciding
import MailFilter.Proofs.Verdict.Exact

namespace MailFilter.Verdict

variable {scoring : Scoring Rat} {action : Action} {results : List (CheckResult Rat)}
  {d r : CheckResult Rat}

/-! ### The result that speaks -/

/-- The result `r` has the disposition `action` and something to say. -/
def Speaks (action : Action) (r : CheckResult Rat) : Prop :=
  r.action = action ∧ r.message ≠ ""

instance (action : Action) : DecidablePred (Speaks action) := fun _ =>
  inferInstanceAs (Decidable (_ ∧ _))

/-- No result with the disposition `action` has anything to say. -/
def Silent (action : Action) (results : List (CheckResult Rat)) : Prop :=
  ∀ r ∈ results, ¬ Speaks action r

instance (action : Action) : DecidablePred (Silent action) := fun _ =>
  inferInstanceAs (Decidable (∀ r ∈ _, _))

/-- Of the results that speak for `action` the result `d` scores most, and it is the
first one that does. -/
def Leads (action : Action) (results : List (CheckResult Rat)) (d : CheckResult Rat) : Prop :=
  Speaks action d ∧ ∃ before after, results = before ++ d :: after ∧
    (∀ r ∈ before, Speaks action r → r.weightedScore < d.weightedScore) ∧
    ∀ r ∈ after, Speaks action r → r.weightedScore ≤ d.weightedScore

theorem Leads.le (h : Leads action results d) (hr : r ∈ results) (hspeaks : Speaks action r) :
    r.weightedScore ≤ d.weightedScore := by
  obtain ⟨-, before, after, rfl, hbefore, hafter⟩ := h
  rcases List.mem_append.1 hr with hr | hr
  · exact le_of_lt (hbefore r hr hspeaks)
  · rcases List.mem_cons.1 hr with rfl | hr
    · exact le_refl _
    · exact hafter r hr hspeaks

/-- The result that `Leads` goes on leading as long as nothing beats it. -/
theorem Leads.concat (h : Leads action results d)
    (hr : Speaks action r → r.weightedScore ≤ d.weightedScore) : Leads action (results ++ [r]) d := by
  obtain ⟨hd, before, after, rfl, hbefore, hafter⟩ := h
  refine ⟨hd, before, after ++ [r], by simp, hbefore, ?_⟩
  intro r' hr' hspeaks
  rcases List.mem_append.1 hr' with hr' | hr'
  · exact hafter r' hr' hspeaks
  · obtain rfl := List.mem_singleton.1 hr'
    exact hr hspeaks

theorem leads_last (hr : Speaks action r)
    (h : ∀ r' ∈ results, Speaks action r' → r'.weightedScore < r.weightedScore) :
    Leads action (results ++ [r]) r :=
  ⟨hr, results, [], rfl, h, by simp⟩

theorem deciding_concat (action : Action) (results : List (CheckResult Rat)) (r : CheckResult Rat) :
    deciding action (results ++ [r])
      = if Speaks action r then better (deciding action results) r
        else deciding action results := by
  by_cases haction : r.action = action <;> by_cases hmessage : r.message = "" <;>
    simp [deciding, bucket, Speaks, haction, hmessage]

/-- What `deciding` finds is the leading result, if any result speaks at all. -/
theorem deciding_cases (action : Action) (results : List (CheckResult Rat)) :
    (deciding action results = none ∧ Silent action results) ∨
    ∃ d, deciding action results = some d ∧ Leads action results d := by
  induction results using List.reverseRecOn with
  | nil => exact .inl ⟨rfl, by simp [Silent]⟩
  | append_singleton results r ih =>
    rw [deciding_concat]
    by_cases hr : Speaks action r
    · rw [if_pos hr]
      right
      rcases ih with ⟨hnone, hsilent⟩ | ⟨d, hd, hleads⟩
      · refine ⟨r, by rw [hnone, better], leads_last hr ?_⟩
        intro r' hr' hspeaks
        exact absurd hspeaks (hsilent r' hr')
      · rw [hd, better]
        by_cases hle : r.weightedScore ≤ d.weightedScore
        · exact ⟨d, if_pos (Score.le_iff.2 hle), hleads.concat fun _ => hle⟩
        · refine ⟨r, if_neg (mt Score.le_iff.1 hle), leads_last hr ?_⟩
          intro r' hr' hspeaks
          exact lt_of_le_of_lt (hleads.le hr' hspeaks) (not_le.1 hle)
    · rw [if_neg hr]
      rcases ih with ⟨hnone, hsilent⟩ | ⟨d, hd, hleads⟩
      · refine .inl ⟨hnone, ?_⟩
        intro r' hr'
        rcases List.mem_append.1 hr' with hr' | hr'
        · exact hsilent r' hr'
        · rwa [List.mem_singleton.1 hr']
      · exact .inr ⟨d, hd, hleads.concat fun hspeaks => absurd hspeaks hr⟩

theorem deciding_of_silent (h : Silent action results) : deciding action results = none := by
  rcases deciding_cases action results with ⟨hnone, -⟩ | ⟨d, -, hspeaks, before, after, rfl, -⟩
  · exact hnone
  · exact absurd hspeaks (h d (by simp))

theorem exists_leads (h : ¬ Silent action results) :
    ∃ d, deciding action results = some d ∧ Leads action results d :=
  (deciding_cases action results).resolve_left fun hnone => h hnone.2

/-! ### The disposition -/

/-- The rejecting results have reached their threshold, which is `rejectThreshold` if
that is positive. -/
def Rejects (scoring : Scoring Rat) (results : List (CheckResult Rat)) : Prop :=
  0 < scoring.rejectThreshold ∧ scoring.rejectThreshold ≤ bucketSum .reject results

/-- A check has failed. -/
def Fails (results : List (CheckResult Rat)) : Prop :=
  ∃ r ∈ results, r.action = .error

/-- The deferring and the rejecting results have reached `tempfailThreshold` together. -/
def Defers (scoring : Scoring Rat) (results : List (CheckResult Rat)) : Prop :=
  0 < scoring.tempfailThreshold ∧
    scoring.tempfailThreshold ≤ bucketSum .tempfail results + bucketSum .reject results

instance (scoring : Scoring Rat) : DecidablePred (Rejects scoring) := fun _ =>
  inferInstanceAs (Decidable (_ ∧ _))

instance : DecidablePred Fails := fun _ =>
  inferInstanceAs (Decidable (∃ r ∈ _, _))

instance (scoring : Scoring Rat) : DecidablePred (Defers scoring) := fun _ =>
  inferInstanceAs (Decidable (_ ∧ _))

theorem reaches_reject_iff :
    reaches (bucketScore .reject results) scoring.rejectThreshold = true ↔ Rejects scoring results := by
  rw [bucketScore_eq, reaches_iff, Rejects]

theorem reaches_tempfail_iff :
    reaches (Score.add (bucketScore .tempfail results) (bucketScore .reject results))
      scoring.tempfailThreshold = true ↔ Defers scoring results := by
  rw [bucketScore_eq, bucketScore_eq, Score.add_eq, reaches_iff, Defers]

theorem find?_of_not_fails (h : ¬ Fails results) :
    results.find? (fun r => r.action = .error) = none := by
  refine List.find?_eq_none.2 ?_
  intro r hr herror
  exact h ⟨r, hr, of_decide_eq_true herror⟩

/-- The message and the module of the result `best`, or a text and no module. -/
def told (best : Option (CheckResult Rat)) (text : String) : String × Option String :=
  ((best.map (·.message)).getD text, best.map (·.module))

theorem ruling_of_rejects (h : Rejects scoring results) :
    ruling scoring results = (.reject, told (deciding .reject results) rejectText) :=
  if_pos (reaches_reject_iff.2 h)

theorem ruling_of_failed (hreject : ¬ Rejects scoring results)
    (h : results.find? (fun r => r.action = .error) = some d) :
    ruling scoring results = (.tempfail, failureText, some d.module) := by
  refine (if_neg (mt reaches_reject_iff.1 hreject)).trans ?_
  rw [h]

theorem ruling_of_defers (hreject : ¬ Rejects scoring results) (hfails : ¬ Fails results)
    (h : Defers scoring results) :
    ruling scoring results = (.tempfail,
      told ((deciding .tempfail results).or (deciding .reject results)) tempfailText) := by
  refine (if_neg (mt reaches_reject_iff.1 hreject)).trans ?_
  rw [find?_of_not_fails hfails]
  exact if_pos (reaches_tempfail_iff.2 h)

theorem ruling_of_permits (hreject : ¬ Rejects scoring results) (hfails : ¬ Fails results)
    (h : ¬ Defers scoring results) : ruling scoring results = (.permit, "", none) := by
  refine (if_neg (mt reaches_reject_iff.1 hreject)).trans ?_
  rw [find?_of_not_fails hfails]
  exact if_neg (mt reaches_tempfail_iff.1 h)

/-- What counts for `decide` are the sums of the scores, and whether a check has failed. -/
theorem action_decide (scoring : Scoring Rat) (results : List (CheckResult Rat)) :
    (decide scoring results).action =
      if Rejects scoring results then .reject
      else if Fails results ∨ Defers scoring results then .tempfail else .permit := by
  show (ruling scoring results).1 = _
  by_cases hreject : Rejects scoring results
  · rw [ruling_of_rejects hreject, if_pos hreject]
  · rw [if_neg hreject]
    cases hfind : results.find? (fun r => r.action = .error) with
    | some d =>
      have hfails : Fails results :=
        ⟨d, List.mem_of_find?_eq_some hfind, by simpa using List.find?_some hfind⟩
      rw [ruling_of_failed hreject hfind, if_pos (.inl hfails)]
    | none =>
      have hfails : ¬ Fails results := by
        rintro ⟨r, hr, herror⟩
        simpa [herror] using List.find?_eq_none.1 hfind r hr
      by_cases hdefers : Defers scoring results
      · rw [ruling_of_defers hreject hfails hdefers, if_pos (.inr hdefers)]
      · rw [ruling_of_permits hreject hfails hdefers, if_neg (by simp [hfails, hdefers])]

theorem action_eq_reject_iff : (decide scoring results).action = .reject ↔ Rejects scoring results := by
  rw [action_decide]
  split_ifs <;> simp_all

theorem action_eq_tempfail_iff : (decide scoring results).action = .tempfail ↔
    ¬ Rejects scoring results ∧ (Fails results ∨ Defers scoring results) := by
  rw [action_decide]
  split_ifs <;> simp_all

theorem action_eq_permit_iff : (decide scoring results).action = .permit ↔
    ¬ Rejects scoring results ∧ ¬ (Fails results ∨ Defers scoring results) := by
  rw [action_decide]
  split_ifs <;> simp_all

/-! ### What the client is told -/

/-- The verdict `v` tells what the result says that `Leads` for `action`. -/
def Voices (v : Verdict Rat) (action : Action) (results : List (CheckResult Rat)) : Prop :=
  ∃ d, Leads action results d ∧ v.message = d.message ∧ v.decidingModule = some d.module

/-- The verdict `v` tells a text that is nobody's. -/
def Tells (v : Verdict Rat) (text : String) : Prop :=
  v.message = text ∧ v.decidingModule = none

theorem voices_of_told {v : Verdict Rat} {text : String} (hleads : Leads action results d)
    (h : (v.message, v.decidingModule) = told (some d) text) : v.Voices action results :=
  ⟨d, hleads, Prod.mk.inj h⟩

theorem tells_or_voices {v : Verdict Rat} {text : String}
    (h : (v.message, v.decidingModule) = told (deciding action results) text) :
    if Silent action results then v.Tells text else v.Voices action results := by
  by_cases hsilent : Silent action results
  · rw [if_pos hsilent]
    rw [deciding_of_silent hsilent] at h
    exact Prod.mk.inj h
  · rw [if_neg hsilent]
    obtain ⟨d, hd, hleads⟩ := exists_leads hsilent
    exact voices_of_told hleads (hd ▸ h)

/-- What the verdict `v` says about weighted results, apart from how `Verdict.ruling` comes to it. -/
structure Decided (scoring : Scoring Rat) (results : List (CheckResult Rat)) (v : Verdict Rat) :
    Prop where
  reject : v.action = .reject ↔ Rejects scoring results
  tempfail : v.action = .tempfail ↔
    ¬ Rejects scoring results ∧ (Fails results ∨ Defers scoring results)
  permit : v.action = .permit ↔
    ¬ Rejects scoring results ∧ ¬ (Fails results ∨ Defers scoring results)
  message : v.message ≠ "" ↔ v.action ≠ .permit
  /-- The leading rejecting result speaks for a rejection. -/
  rejected : v.action = .reject →
    if Silent .reject results then v.Tells rejectText else v.Voices .reject results
  /-- Where a check has failed, the module is that of the first one that has. -/
  failed : v.action = .tempfail → Fails results →
    ∃ before d after, results = before ++ d :: after ∧ (∀ r ∈ before, r.action ≠ .error) ∧
      d.action = .error ∧ v.message = failureText ∧ v.decidingModule = some d.module
  /-- Otherwise the leading deferring result speaks, and the leading rejecting one in its place. -/
  deferred : v.action = .tempfail → ¬ Fails results →
    if Silent .tempfail results then
      if Silent .reject results then v.Tells tempfailText else v.Voices .reject results
    else v.Voices .tempfail results

/-- **What is decided on results**, and what the client is told: `Decided` holds of `decide`, whatever
the settings. -/
theorem decided_by_scores (scoring : Scoring Rat) (results : List (CheckResult Rat)) :
    Decided scoring results (decide scoring results) where
  reject := action_eq_reject_iff
  tempfail := action_eq_tempfail_iff
  permit := action_eq_permit_iff
  message := by
    refine ⟨?_, (sayable_ruling scoring results).told⟩
    intro hmessage hpermit
    obtain ⟨hreject, hdefers⟩ := action_eq_permit_iff.1 hpermit
    rw [not_or] at hdefers
    exact hmessage (congrArg (·.2.1) (ruling_of_permits hreject hdefers.1 hdefers.2))
  rejected := by
    intro h
    exact tells_or_voices (congrArg Prod.snd (ruling_of_rejects (action_eq_reject_iff.1 h)))
  failed := by
    rintro h ⟨r, hr, herror⟩
    obtain ⟨d, hfind⟩ : ∃ d, results.find? (fun r => r.action = .error) = some d :=
      Option.isSome_iff_exists.1 (List.find?_isSome.2 ⟨r, hr, decide_eq_true herror⟩)
    obtain ⟨hd, before, after, hsplit, hbefore⟩ := List.find?_eq_some_iff_append.1 hfind
    have hruling := ruling_of_failed (action_eq_tempfail_iff.1 h).1 hfind
    refine ⟨before, d, after, hsplit, ?_, by simpa using hd, Prod.mk.inj (congrArg Prod.snd hruling)⟩
    intro r' hr'
    simpa using hbefore r' hr'
  deferred := by
    intro h hfails
    obtain ⟨hreject, hdefers⟩ := action_eq_tempfail_iff.1 h
    have hruling := congrArg Prod.snd (ruling_of_defers hreject hfails (hdefers.resolve_left hfails))
    by_cases hsilent : Silent .tempfail results
    · rw [if_pos hsilent]
      rw [deciding_of_silent hsilent, Option.none_or] at hruling
      exact tells_or_voices hruling
    · rw [if_neg hsilent]
      obtain ⟨d, hd, hleads⟩ := exists_leads hsilent
      rw [hd, Option.some_or] at hruling
      exact voices_of_told hleads hruling

/-- Of two results that score alike the first one speaks, and not one that has nothing to say. -/
example :
    let scoring : Scoring Rat := ⟨5, 5, 25, 5, 25, []⟩
    let result (module message : String) (score : Rat) : CheckResult Rat :=
      { CheckResult.new .reject score with module, message }
    let v := decide scoring
      [result "rules" "" 9, result "rspamd" "Looks like spam" (-1), result "local" "Not here" (-1)]
    (v.action, v.message, v.decidingModule) = (.reject, "Looks like spam", some "rspamd") := by
  decide +kernel

end MailFilter.Verdict
