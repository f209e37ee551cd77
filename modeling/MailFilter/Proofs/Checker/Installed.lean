/-
Quotas among other checkers.

The counters are a part of the memory that belongs to the quotas: no other checker knows of them, and
the quotas change them only when they are told about a verdict. So what is counted is a history of
single events.

* `find?_quotas`: whoever is told about the quotas is the quotas;
* `get_tell`: what telling a module does to the counters;
* `requests_judge`: what the quotas are told about a message.
-/
import MailFilter.Proofs.Checker.Quota
import MailFilter.Proofs.Filter.Books
import MailFilter.Proofs.Verdict.Share

namespace MailFilter

variable {σ : Type}

/-- A check that ends in time has the `opinion` of its outcome. -/
theorem Judging.opinion_of_prompt {config : Config} {c : Checker σ} {run : CheckRun}
    (h : run.delayMs ≤ config.milter.moduleTimeoutMs) :
    opinion config (c, run) = (resultOf c.name config.scoring.errorScore run.outcome).map fun r =>
      { r with module := c.name, elapsedMs := min run.delayMs config.milter.moduleTimeoutMs } := by
  rw [opinion, arrivalOf]
  simp only [Nat.not_lt.2 h, if_false]

/-- It has the `requests` of its outcome. -/
theorem Judging.requests_opinion {config : Config} {c : Checker σ} {run : CheckRun}
    (h : run.delayMs ≤ config.milter.moduleTimeoutMs) :
    ((opinion config (c, run)).map (·.followUps)).getD [] = run.outcome.requests := by
  rw [opinion_of_prompt h]
  cases run.outcome <;> rfl

namespace Quota

/-- The quotas of `checker settings` take part in the filter, with a part `l` of the
memory of their own. -/
structure Installed (settings : QuotaSettings) (l : Focus σ Counters) (f : Filter σ) : Prop where
  get_set : ∀ c s, l.get (l.set c s) = c
  enabled : settings.enabled = true
  mem : (checker settings).focus l ∈ f.registry.checkers
  names : (f.registry.checkers.map (·.name)).Nodup
  /-- No other checker touches it. -/
  observes : ∀ c ∈ f.registry.checkers, c.name ≠ "quotas" → c.Observes l
  followUp : ∀ c ∈ f.registry.checkers, c.name ≠ "quotas" → ∀ token action now s,
    l.get (c.followUp token action now s) = l.get s

namespace Installed

variable {settings : QuotaSettings} {l : Focus σ Counters} {f : Filter σ}

/-- There is one checker with the name of the quotas. -/
theorem eq_of_name (h : Installed settings l f) {c : Checker σ} (hc : c ∈ f.registry.checkers)
    (hname : c.name = "quotas") : c = (checker settings).focus l :=
  List.inj_on_of_nodup_map h.names hc h.mem hname

/-- Every enabled checker leaves the counters alone unless it is told about a verdict, and so do the
quotas: it `Observes` their part of the memory. -/
theorem observes_enabled (h : Installed settings l f) :
    ∀ c ∈ f.registry.enabled, c.Observes l := by
  intro c hc
  have hmem := (List.mem_filter.1 hc).1
  by_cases hname : c.name = "quotas"
  · rw [h.eq_of_name hmem hname]
    exact ⟨fun _ _ s => h.get_set (l.get s) s, fun s => h.get_set (l.get s) s,
      fun _ _ s => h.get_set (l.get s) s, fun _ s => h.get_set (l.get s) s⟩
  · exact h.observes c hmem hname

theorem mem_enabled (h : Installed settings l f) :
    (checker settings).focus l ∈ f.registry.enabled :=
  List.mem_filter.2 ⟨h.mem, h.enabled⟩

/-- The place of the quotas among the `enabled` checkers. -/
theorem exists_split (h : Installed settings l f) : ∃ before after,
    f.registry.enabled = before ++ (checker settings).focus l :: after ∧
      (f.registry.enabled.map (·.name)).Nodup ∧
      f.registry.enabled.findIdx (fun c => c.name == "quotas") = before.length := by
  obtain ⟨before, after, henabled⟩ := List.append_of_mem h.mem_enabled
  have hnames : (f.registry.enabled.map (·.name)).Nodup :=
    h.names.sublist (List.filter_sublist.map _)
  refine ⟨before, after, henabled, hnames, ?_⟩
  have hnone : ∀ c ∈ before, c.name ≠ "quotas" := by
    intro c hc heq
    rw [henabled, List.map_append, List.nodup_append] at hnames
    exact hnames.2.2 _ (List.mem_map_of_mem hc) "quotas" List.mem_cons_self heq
  rw [henabled, List.findIdx_append, if_neg, List.findIdx_cons]
  · simp [checker, Checker.focus]
  · rw [List.findIdx_lt_length]
    rintro ⟨c, hc, heq⟩
    exact hnone c hc (by simpa using heq)

theorem find?_quotas (h : Installed settings l f) :
    f.registry.find? "quotas" = some ((checker settings).focus l) :=
  find?_of_nodup h.names h.mem fun _ => beq_iff_eq

end Installed

/-! ### The history of the counters -/

/-- The calendar reaches back a window: the `cutoff` of the window that ends `now` exists. -/
def Fits (settings : QuotaSettings) (now : Timestamp) : Prop :=
  ∃ start, window settings >>= cutoff now = .ok start

theorem fits_iff {settings : QuotaSettings} {now : Timestamp} : Fits settings now ↔
    settings.windowSecs ≤ maxWindowSecs ∧
      earliest.nanos ≤ (now.laterSecs (-settings.windowSecs)).nanos := by
  unfold Fits window
  by_cases hwindow : settings.windowSecs ≤ maxWindowSecs
  · rw [if_pos hwindow]
    show (∃ start, cutoff now settings.windowSecs = .ok start) ↔ _
    unfold cutoff
    by_cases hstart : earliest.nanos ≤ (now.laterSecs (-settings.windowSecs)).nanos
    · simp [hwindow, hstart]
    · simp [hwindow, hstart]
  · rw [if_neg hwindow]
    refine ⟨?_, fun h => absurd h.1 hwindow⟩
    rintro ⟨start, hstart⟩
    cases hstart

theorem fits_of_admits {settings : QuotaSettings} {c : Counters} {sender : Address}
    {now : Timestamp} (h : Admits settings c sender now) : Fits settings now := by
  obtain ⟨-, n, -, hcount⟩ := h
  unfold count at hcount
  cases hstart : window settings >>= cutoff now with
  | ok start => exact ⟨start, hstart⟩
  | error p =>
    rw [← bind_assoc, hstart] at hcount
    cases hcount

/-- A window that `Fits` once does at all later times. -/
theorem lt_of_fits {settings : QuotaSettings} {now t : Timestamp} (hnot : ¬ Fits settings now)
    (h : Fits settings t) : now.nanos < t.nanos := by
  rw [fits_iff] at hnot h
  obtain ⟨hwindow, hstart⟩ := h
  have hlt := Int.not_le.1 fun hle => hnot ⟨hwindow, hle⟩
  simp only [Timestamp.laterSecs, Timestamp.later] at hstart hlt
  omega

/-- What happens to the `Counters`. -/
inductive Entry where
  | recorded (key : String) (now : Timestamp)
  /-- An event cannot be recorded: the calendar does not reach back a window. -/
  | missed (key : String) (now : Timestamp)
  | reset (target : Option String)

namespace Entry

/-- The sender for whom an event has been due. -/
def key? : Entry → Option String
  | recorded key _ | missed key _ => some key
  | reset _ => none

/-- The counters after an `Entry`. -/
def apply (settings : QuotaSettings) (c : Counters) : Entry → Counters
  | recorded key now => c.record key now (now.laterSecs (-settings.windowSecs))
  | missed _ _ => c
  | reset target => c.reset target

end Entry

/-- The sender for whom the request `u` makes an event due: it has come from the quotas, and the message
was permitted. -/
def due? (u : FollowUp) : Option String :=
  if u.module = "quotas" ∧ u.action = .permit then some u.token else none

/-- What becomes of the counters when a module is told of the request `u`. -/
def entries (settings : QuotaSettings) (now : Timestamp) (u : FollowUp) : List Entry :=
  match due? u, window settings >>= cutoff now with
  | some key, .ok _ => [.recorded key now]
  | some key, .error _ => [.missed key now]
  | none, _ => []

theorem keys_entries (settings : QuotaSettings) (now : Timestamp) (u : FollowUp) :
    (entries settings now u).filterMap Entry.key? = (due? u).toList := by
  unfold entries
  cases due? u with
  | none => rfl
  | some key => cases window settings >>= cutoff now <;> rfl

/-- What is due is `missed` only where the window does not fit. -/
theorem due_of_missed {settings : QuotaSettings} {now t : Timestamp} {u : FollowUp} {key : String}
    (h : Entry.missed key t ∈ entries settings now u) :
    due? u = some key ∧ t = now ∧ ¬ Fits settings now := by
  unfold entries at h
  cases hdue : due? u with
  | none => simp [hdue] at h
  | some key' =>
    cases hstart : window settings >>= cutoff now with
    | ok start => simp [hdue, hstart] at h
    | error p =>
      simp only [hdue, hstart, List.mem_singleton, Entry.missed.injEq] at h
      obtain ⟨rfl, rfl⟩ := h
      refine ⟨rfl, rfl, ?_⟩
      rintro ⟨start, hok⟩
      rw [hstart] at hok
      cases hok

section

variable {settings : QuotaSettings} {l : Focus σ Counters} {f : Filter σ}

/-- Telling a module adds its `entries` to the history of the counters. -/
theorem get_tell (h : Installed settings l f) (now : Timestamp) (s : σ) (u : FollowUp) :
    l.get (f.registry.tell now s u)
      = (entries settings now u).foldl (Entry.apply settings) (l.get s) := by
  unfold Registry.tell entries due?
  by_cases hmodule : u.module = "quotas"
  · rw [hmodule, h.find?_quotas]
    show l.get (l.set (settle settings u.token u.action now (l.get s)) s) = _
    rw [h.get_set, settle]
    by_cases haction : u.action = .permit
    · rw [if_pos haction, if_pos ⟨rfl, haction⟩]
      cases hstart : window settings >>= cutoff now with
      | error p => rfl
      | ok start =>
        rw [start_eq hstart]
        rfl
    · rw [if_neg haction, if_neg fun hboth => haction hboth.2]
      rfl
  · rw [if_neg fun hboth => hmodule hboth.1]
    cases hfind : f.registry.find? u.module with
    | none => rfl
    | some c =>
      have hname : c.name = u.module := by simpa using List.find?_some hfind
      exact h.followUp c (List.mem_of_find?_eq_some hfind) (hname ▸ hmodule) ..

/-! ### What the quotas are told about a message -/

/-- What arrives before the result of the quotas does not stop collection: it `Collects` the place of the
quotas. -/
def Collected (f : Filter σ) (st : FilterState σ) (config : Config) (ctx : CheckContext) : Prop :=
  (f.judgingAt st config ctx).Collects (f.registry.enabled.findIdx fun c => c.name == "quotas")

instance (f : Filter σ) (st : FilterState σ) (config : Config) (ctx : CheckContext) :
    Decidable (Collected f st config ctx) :=
  inferInstanceAs (Decidable (Judging.Collects _ _))

/-- The quotas ask to be told about a message that passes, and they are among the `followUps` of the
verdict if that has been `Collected`. -/
theorem requests_judge (h : Installed settings l f) (st : FilterState σ) (config : Config)
    (ctx : CheckContext) (action : Action) :
    (Admits settings (l.get st.memory) ctx.message.sender st.clock ∧
        Collected f st config ctx ∧
      ((f.verdictAt st config ctx).followUps action).filter (fun u => u.module = "quotas")
        = [⟨"quotas", senderKey ctx.message.sender, action⟩]) ∨
    (¬ (Admits settings (l.get st.memory) ctx.message.sender st.clock ∧
        Collected f st config ctx) ∧
      ((f.verdictAt st config ctx).followUps action).filter (fun u => u.module = "quotas") = []) := by
  obtain ⟨before, after, henabled, hnames, hplace⟩ := h.exists_split
  -- the checkers that are started before the quotas have left the counters alone
  have hget : l.get (Judging.startAll config ctx st.clock 0 before st.memory).2
      = l.get st.memory := by
    refine Judging.get_startAll (fun c hc => h.observes_enabled c ?_) ..
    rw [henabled]
    exact List.mem_append_left _ hc
  have hrequests : ((Judging.opinion config ((checker settings).focus l, Judging.runOf config ctx
      st.clock before ((checker settings).focus l) st.memory)).map (·.followUps)).getD []
        = (outcome settings (l.get st.memory) ctx.message.sender st.clock).requests := by
    rw [Judging.requests_opinion (Nat.zero_le _), ← hget]
    rfl
  have htold := Judging.followUps_judge config ctx st.clock henabled hnames st.metrics
    st.memory action
  rw [hrequests] at htold
  change ((f.verdictAt st config ctx).followUps action).filter (fun u => u.module = "quotas")
    = _ at htold
  rw [htold, Collected, hplace]
  rcases requests_outcome settings (l.get st.memory) ctx.message.sender st.clock with
    ⟨hadmits, heq⟩ | ⟨hnot, heq⟩
  · by_cases hcollects : (f.judgingAt st config ctx).Collects before.length
    · refine .inl ⟨hadmits, hcollects, ?_⟩
      rw [heq]
      exact if_pos hcollects
    · exact .inr ⟨fun hboth => hcollects hboth.2, if_neg hcollects⟩
  · refine .inr ⟨fun hboth => hnot hboth.1, ?_⟩
    rw [heq]
    exact ite_self _

end

end Quota

end MailFilter
