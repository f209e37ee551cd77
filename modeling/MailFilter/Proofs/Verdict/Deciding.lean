/-
What a verdict can say.

A failed check counts in the results, but it is never the verdict: the message is deferred then. And
whoever is refused is told something, be it the message of a result or one of the texts for when there
is none.

* `sayable_ruling`: what is decided on results;
* `sayable_judge`: what judging a message comes to;
* `Sayable.effective`: what counts for a client on the allow list.
-/
import MailFilter.Filter.Callback

namespace MailFilter.Verdict

variable {ρ : Type}

/-- A disposition and a message that a client can be told: no `error`, and a text unless the message is
permitted. -/
structure Sayable (action : Action) (message : String) : Prop where
  noError : action ≠ .error
  told : action ≠ .permit → message ≠ ""

section

/-- The text that a client is told is that of the result `best`, or else `text`; neither is empty. -/
theorem message_of_deciding {best : Option (CheckResult ρ)} {text : String} (htext : text ≠ "")
    (h : ∀ d, best = some d → d.message ≠ "") : (best.map (·.message)).getD text ≠ "" := by
  cases best with
  | none => exact htext
  | some d => exact h d rfl

variable [Score ρ] {action : Action} {results : List (CheckResult ρ)} {d : CheckResult ρ}

/-- The result `better` than all is one of those that have been looked at. -/
theorem mem_of_foldl_better {best : Option (CheckResult ρ)} (h : results.foldl better best = some d) :
    d ∈ results ∨ best = some d := by
  induction results generalizing best with
  | nil => exact .inr h
  | cons r rest ih =>
    rcases ih h with hmem | hbest
    · exact .inl (List.mem_cons_of_mem _ hmem)
    · unfold better at hbest
      split at hbest
      · split at hbest
        · exact .inr hbest
        · exact .inl (List.mem_cons.2 (.inl (Option.some.inj hbest).symm))
      · exact .inl (List.mem_cons.2 (.inl (Option.some.inj hbest).symm))

theorem message_deciding (h : deciding action results = some d) : d.message ≠ "" := by
  rcases mem_of_foldl_better h with hmem | hnone
  · have hmessage := (List.mem_filter.1 hmem).2
    rintro heq
    rw [heq] at hmessage
    cases hmessage
  · cases hnone

/-- What `ruling` decides on results can be said. -/
theorem sayable_ruling (scoring : Scoring ρ) (results : List (CheckResult ρ)) :
    Sayable (ruling scoring results).1 (ruling scoring results).2.1 := by
  unfold ruling
  dsimp only
  split
  · exact ⟨by simp, fun _ => message_of_deciding (by decide) fun d => message_deciding⟩
  · split
    · have htext : failureText ≠ "" := by decide
      exact ⟨by simp, fun _ => htext⟩
    · split
      · refine ⟨by simp, fun _ => message_of_deciding (by decide) fun d h => ?_⟩
        rcases Option.or_eq_some_iff.1 h with h | ⟨-, h⟩
        · exact message_deciding h
        · exact message_deciding h
      · exact ⟨by simp, fun h => absurd rfl h⟩

/-- Without anything against a message `decide` permits it, if no threshold is reached by nothing. -/
theorem action_of_permits {scoring : Scoring ρ}
    (h : ∀ r ∈ results, r.action = .permit)
    (hreject : reaches (Score.sum []) scoring.rejectThreshold = false)
    (htempfail : reaches (Score.add (Score.sum []) (Score.sum [])) scoring.tempfailThreshold
      = false) : (decide scoring results).action = .permit := by
  have hbucket : ∀ action, action ≠ .permit → bucketScore action results = Score.sum [] := by
    intro action hne
    rw [bucketScore, bucket, List.filter_eq_nil_iff.2, List.map_nil]
    intro r hr
    rw [h r hr]
    simpa using hne.symm
  have hfind : results.find? (fun r => r.action = .error) = none := by
    refine List.find?_eq_none.2 fun r hr => ?_
    simp [h r hr]
  have hrule : ruling scoring results = (.permit, "", none) := by
    rw [ruling]
    simp only [hbucket .reject (by decide), hbucket .tempfail (by decide), hreject, htempfail, hfind]
    rfl
  rw [decide, hrule]

end

/-- What `Registry.judge` comes to can be said. -/
theorem sayable_judge {σ : Type} (registry : Registry σ) (config : Config) (ctx : CheckContext)
    (now : Timestamp) (m : Metrics) (s : σ) :
    Sayable (registry.judge config ctx now m s).1.action (registry.judge config ctx now m s).1.message :=
  sayable_ruling _ _

/-- The disposition that counts: `Verdict.effective` never refuses a client on the allow list. -/
theorem action_effective (allowListed : Bool) (v : Verdict Float) :
    (v.effective allowListed).action = if allowListed then .permit else v.action := by
  unfold effective
  cases allowListed with
  | false => rfl
  | true => by_cases h : v.action = .permit <;> simp [h]

/-- The disposition that counts rests on the same `results`. -/
theorem results_effective (allowListed : Bool) (v : Verdict Float) :
    (v.effective allowListed).results = v.results := by
  unfold effective
  split <;> rfl

theorem Sayable.effective {v : Verdict Float} (h : Sayable v.action v.message)
    (allowListed : Bool) :
    Sayable (v.effective allowListed).action (v.effective allowListed).message := by
  unfold Verdict.effective
  split
  · exact ⟨by simp, fun h => absurd rfl h⟩
  · exact h

end MailFilter.Verdict
