/-
The score of the rules and what they list.

The rules that fire add up their scores, and list them by their names. Of several with one name the list
has the last one only, so it does not explain the score if the others count for something.

* `RuleSet.ofSettings_eq_ok_iff`: the rules of a set that has been accepted;
* `RuleSet.total_eq`, `RuleSet.listing_eq`: what is made of the rules that match;
* `RuleSet.score_explained_iff`: when the list explains the score;
* `RuleSet.score_unexplained`: two rules of one name.
-/
import Mathlib.Algebra.BigOperators.Group.List.Basic
import Mathlib.Algebra.Ring.Rat
import MailFilter.Checker.Rules
import MailFilter.Proofs.Data.Fields

namespace MailFilter

variable {π ρ : Type} {read : String → Except String π} {isMatch : π → String → Bool}

/-! ### Rules in the settings -/

namespace Rule

/-- Whether a rule takes part and matches. -/
def fires (read : String → Except String π) (isMatch : π → String → Bool) (v : RuleView)
    (r : Rule ρ) : Bool :=
  r.enabled && match r.prepare read with
    | .ok ready => ready.test.holds isMatch v
    | .error _ => false

/-- The name of a `Rule` with its score. -/
def entry (r : Rule ρ) : String × ρ :=
  (r.name, r.score)

end Rule

/-- The name of a `ReadyRule` with its score. -/
def ReadyRule.entry (r : ReadyRule π ρ) : String × ρ :=
  (r.name, r.score)

/-- Of a rule nothing but its test has to be made ready by `prepare`. -/
theorem Rule.exists_test_of_prepare {r : Rule ρ} {ready : ReadyRule π ρ}
    (h : r.prepare read = .ok ready) : ∃ test, ready = ⟨r.name, r.score, r.enabled, test⟩ := by
  rcases r with ⟨name, description, kind, pattern, score, enabled⟩
  cases kind with
  | hasHeader | missingHeader =>
    cases h
    exact ⟨_, rfl⟩
  | header | body | sender | subject | url | bodyLength =>
    simp only [prepare] at h
    split at h
    · cases h
      exact ⟨_, rfl⟩
    · cases h

/-- The rules that settings ask for: the default ones, if they are wanted, and then the
settings' own. -/
def RuleSettings.chosen (settings : RuleSettings ρ) (defaults : List (Rule ρ)) : List (Rule ρ) :=
  (if settings.defaultRules then defaults else []) ++ settings.rules

namespace RuleSet

/-- What `prepare` makes of rules, one for each rule of the settings. -/
def Readies (read : String → Except String π) (rules : List (Rule ρ)) (ready : List (ReadyRule π ρ)) :
    Prop :=
  List.Forall₂ (fun r ready => r.prepare read = .ok ready) rules ready

theorem add_eq_ok_iff {set result : RuleSet π ρ} {r : Rule ρ} : set.add read r = .ok result ↔
    ∃ ready, r.prepare read = .ok ready ∧ result = { set with rules := set.rules ++ [ready] } := by
  rw [add]
  cases r.prepare read with
  | error e => simp [Except.map]
  | ok ready => simp [Except.map, eq_comm]

/-- Adding rules with `add` adds them in their order, each made ready. -/
theorem foldlM_add_eq_ok_iff {rules : List (Rule ρ)} {set result : RuleSet π ρ} :
    rules.foldlM (add read) set = .ok result ↔
      ∃ ready, Readies read rules ready ∧ result = { set with rules := set.rules ++ ready } := by
  induction rules generalizing set with
  | nil =>
    constructor
    · intro h
      cases h
      exact ⟨[], .nil, by simp⟩
    · rintro ⟨ready, hready, rfl⟩
      cases hready
      simp [pure, Except.pure]
  | cons r rest ih =>
    constructor
    · intro h
      rw [List.foldlM_cons] at h
      cases hadd : set.add read r with
      | error e =>
        rw [hadd] at h
        cases h
      | ok added =>
        rw [hadd] at h
        obtain ⟨first, hfirst, rfl⟩ := add_eq_ok_iff.1 hadd
        obtain ⟨ready, hready, rfl⟩ := ih.1 h
        exact ⟨first :: ready, .cons hfirst hready, by simp⟩
    · rintro ⟨ready, hready, rfl⟩
      cases hready with
      | @cons _ first _ ready hfirst hready =>
        rw [List.foldlM_cons, add_eq_ok_iff.2 ⟨first, hfirst, rfl⟩]
        exact ih.2 ⟨ready, hready, by simp⟩

theorem ofSettings_eq_ok_iff {defaults : List (Rule ρ)} {settings : RuleSettings ρ}
    {set : RuleSet π ρ} : ofSettings read defaults settings = .ok set ↔
      Readies read (settings.chosen defaults) set.rules ∧ set.rejectScore = settings.rejectScore := by
  rw [ofSettings, ← RuleSettings.chosen, foldlM_add_eq_ok_iff]
  constructor
  · rintro ⟨ready, hready, rfl⟩
    exact ⟨hready, rfl⟩
  · rintro ⟨hready, hscore⟩
    exact ⟨set.rules, hready, by rw [← hscore, List.nil_append]⟩

/-- The ready rules that match are those for which `fires` says so, in their order. -/
theorem Readies.entries {rules : List (Rule ρ)} {ready : List (ReadyRule π ρ)}
    (h : Readies read rules ready) (v : RuleView) :
    (ready.filter fun r => r.enabled && r.test.holds isMatch v).map ReadyRule.entry
      = (rules.filter (Rule.fires read isMatch v)).map Rule.entry := by
  induction h with
  | nil => rfl
  | @cons r ready rules readies hready _ ih =>
    obtain ⟨test, rfl⟩ := Rule.exists_test_of_prepare hready
    rw [List.filter_cons, List.filter_cons, Rule.fires, hready]
    split
    · rw [List.map_cons, List.map_cons, ih]
      rfl
    · exact ih

/-! ### What is made of the rules that match -/

theorem total_eq (matched : List (ReadyRule π Rat)) :
    total matched = ((matched.map ReadyRule.entry).map Prod.snd).sum := by
  rw [List.map_map, List.sum_eq_foldl, List.foldl_map]
  rfl

theorem listing_eq (matched : List (ReadyRule π Rat)) : listing matched
    = (Fields.ofList (matched.map ReadyRule.entry)).map (Prod.map id Data.real) := by
  rw [← Fields.ofList_map, List.map_map]
  rfl

/-- The names and scores in `listed` account for a `result` when the rules in `fired` have fired. -/
structure AccountsFor (fired : List (Rule Rat)) (result : CheckResult Rat)
    (listed : List (String × Rat)) : Prop where
  score : result.score = (fired.map (·.score)).sum
  facts : result.determinants = [("rules", .object (listed.map (Prod.map id Data.real)))]
  /-- It is a list of names, each of them once. -/
  sorted : Fields.Sorted listed
  named_iff : ∀ name, name ∈ listed.map Prod.fst ↔ ∃ r ∈ fired, r.name = name
  /-- A name is listed with the score of the last rule of that name. -/
  mem_iff : ∀ name x, (name, x) ∈ listed ↔ ∃ before r after, fired = before ++ r :: after ∧
    r.name = name ∧ r.score = x ∧ ∀ r' ∈ after, r'.name ≠ name
  /-- It sums up to the score just if the rules that another one of their name follows
  count for nothing. -/
  sum_iff : result.score = (listed.map Prod.snd).sum ↔
    ((Fields.outdone (fired.map Rule.entry)).map Prod.snd).sum = 0
  sum_of_distinct : (fired.map (·.name)).Nodup → result.score = (listed.map Prod.snd).sum

/-- The `entries` and what `ofList` keeps of them have the same sum just if those that are `outdone`
count for nothing. -/
theorem sum_ofList_iff (entries : List (String × Rat)) :
    (entries.map Prod.snd).sum = ((Fields.ofList entries).map Prod.snd).sum ↔
      ((Fields.outdone entries).map Prod.snd).sum = 0 := by
  have hparts := ((Fields.perm_lasting_outdone entries).map Prod.snd).sum_eq
  have hlisted := ((Fields.ofList_perm entries).map Prod.snd).sum_eq
  rw [List.map_append, List.sum_append] at hparts
  -- the list lacks what has been dropped, and nothing else
  rw [hparts, hlisted]
  exact add_eq_left

/-- A name is listed with the score of the last rule that has it: `ofList` keeps that one. -/
theorem mem_ofList_entries_iff {fired : List (Rule ρ)} {name : String} {x : ρ} :
    (name, x) ∈ Fields.ofList (fired.map Rule.entry) ↔ ∃ before r after, fired = before ++ r :: after ∧
      r.name = name ∧ r.score = x ∧ ∀ r' ∈ after, r'.name ≠ name := by
  rw [(Fields.ofList_perm _).mem_iff, Fields.mem_lasting_iff]
  constructor
  · rintro ⟨before, after, heq, hlast⟩
    obtain ⟨before, rest, rfl, rfl, hrest⟩ := List.map_eq_append_iff.1 heq
    obtain ⟨r, after, rfl, hr, rfl⟩ := List.map_eq_cons_iff.1 hrest
    obtain ⟨hname, hx⟩ := Prod.mk.inj hr
    refine ⟨before, r, after, rfl, hname, hx, fun r' hr' hsame => hlast ?_⟩
    exact List.mem_map.2 ⟨r'.entry, List.mem_map_of_mem hr', hsame⟩
  · rintro ⟨before, r, after, rfl, rfl, rfl, hlast⟩
    refine ⟨before.map Rule.entry, after.map Rule.entry, List.map_append, ?_⟩
    rw [List.map_map, List.mem_map]
    rintro ⟨r', hr', hsame⟩
    exact hlast r' hr' hsame

theorem accountsFor_ofList (fired : List (Rule Rat)) (result : CheckResult Rat)
    (hscore : result.score = ((fired.map Rule.entry).map Prod.snd).sum)
    (hfacts : result.determinants = [("rules",
      .object ((Fields.ofList (fired.map Rule.entry)).map (Prod.map id Data.real)))]) :
    AccountsFor fired result (Fields.ofList (fired.map Rule.entry)) where
  score := by
    rw [hscore, List.map_map]
    rfl
  facts := hfacts
  sorted := Fields.sorted_ofList _
  named_iff name := by
    rw [((Fields.ofList_perm _).map Prod.fst).mem_iff, Fields.mem_keys_lasting_iff, List.map_map,
      List.mem_map]
    rfl
  mem_iff _ _ := mem_ofList_entries_iff
  sum_iff := by
    rw [hscore]
    exact sum_ofList_iff _
  sum_of_distinct h := by
    rw [hscore, sum_ofList_iff, Fields.outdone_of_nodup (by rwa [List.map_map])]
    rfl

section

variable {defaults : List (Rule Rat)} {settings : RuleSettings Rat} {set : RuleSet π Rat}

theorem evaluate_score (h : ofSettings read defaults settings = .ok set) (m : Message) :
    (set.evaluate isMatch m).score
      = ((((settings.chosen defaults).filter (Rule.fires read isMatch m.ruleView)).map
          Rule.entry).map Prod.snd).sum := by
  rw [← (ofSettings_eq_ok_iff.1 h).1.entries m.ruleView]
  exact total_eq _

theorem evaluate_determinants (h : ofSettings read defaults settings = .ok set) (m : Message) :
    (set.evaluate isMatch m).determinants = [("rules", .object ((Fields.ofList
      (((settings.chosen defaults).filter (Rule.fires read isMatch m.ruleView)).map
        Rule.entry)).map (Prod.map id Data.real)))] := by
  rw [← (ofSettings_eq_ok_iff.1 h).1.entries m.ruleView, ← listing_eq]
  rfl

/-- **The list explains the score** of a rule set, unless rules that fire have a name in common. A list
then `AccountsFor` the result. The score is the sum of the scores of all rules that fire; the list has
their names, each with the score of the last rule of that name. So it sums up to the score just if the
others count for nothing together, as they do if there are none. -/
theorem score_explained_iff (h : ofSettings read defaults settings = .ok set)
    (isMatch : π → String → Bool) (m : Message) :
    ∃ listed, AccountsFor ((settings.chosen defaults).filter (Rule.fires read isMatch m.ruleView))
      (set.evaluate isMatch m) listed :=
  ⟨_, accountsFor_ofList _ _ (evaluate_score h m) (evaluate_determinants h m)⟩

end

/-- Two rules for mail from lists. -/
def listRules (name name' : String) : RuleSettings Rat where
  enabled := true
  defaultRules := false
  rejectScore := 10
  rules :=
    [{ name, kind := .hasHeader, pattern := "List-Id", score := 1 },
     { name := name', kind := .hasHeader, pattern := "List-Unsubscribe", score := 2 }]

/-- A message from a list. -/
def listMessage : Message :=
  { Message.new (Uuid.issued 0) (Uuid.issued 1) ⟨"a", "example.org"⟩ { nanos := 0 } with
    headers := [⟨"List-Id", "a", 1, false⟩, ⟨"List-Unsubscribe", "b", 1, false⟩] }

theorem score_explained_two : ∃ set : RuleSet TextPattern Rat,
    ofSettings TextRules.readPattern [] (listRules "LIST" "LEAVE") = .ok set ∧
      ∃ listed, AccountsFor (((listRules "LIST" "LEAVE").chosen []).filter
          (Rule.fires TextRules.readPattern Pattern.occursIn listMessage.ruleView))
        (set.evaluate Pattern.occursIn listMessage) listed := by
  obtain ⟨set, hset⟩ : ∃ set : RuleSet TextPattern Rat,
    ofSettings TextRules.readPattern [] (listRules "LIST" "LEAVE") = .ok set := ⟨_, rfl⟩
  exact ⟨set, hset, score_explained_iff hset Pattern.occursIn listMessage⟩

/-- The two of `listRules` fire: the score is that of both, and the list has the second one only. -/
theorem score_unexplained : ∃ set : RuleSet TextPattern Rat,
    ofSettings TextRules.readPattern [] (listRules "LIST" "LIST") = .ok set ∧
      (set.evaluate Pattern.occursIn listMessage).score = 3 ∧
      (set.evaluate Pattern.occursIn listMessage).determinants
        = [("rules", .object [("LIST", .real 2)])] := by
  obtain ⟨set, hset⟩ : ∃ set : RuleSet TextPattern Rat,
    ofSettings TextRules.readPattern [] (listRules "LIST" "LIST") = .ok set := ⟨_, rfl⟩
  have hfired : (((listRules "LIST" "LIST").chosen []).filter
      (Rule.fires TextRules.readPattern Pattern.occursIn listMessage.ruleView)).map Rule.entry
        = [("LIST", 1), ("LIST", 2)] := by
    decide +kernel
  refine ⟨set, hset, ?_, ?_⟩
  · rw [evaluate_score hset, hfired]
    decide +kernel
  · have hlisted : Fields.ofList [("LIST", (1 : Rat)), ("LIST", 2)] = [("LIST", 2)] := by
      decide +kernel
    rw [evaluate_determinants hset, hfired, hlisted]
    rfl

end RuleSet

end MailFilter
