/-
How long a window may be.

The settings may ask for a window of any length. But its length is counted in milliseconds, and its
start is a date: the one has an end, and the calendar has a beginning. What lies beyond them is a panic,
and for the check of a message that panic is a result with the error score.

* `outcome_cases`: how the check of a message ends;
* `exists_error_quotas_iff`: when the result of the quotas in a verdict is that of a failed check;
* `limited`: where the limits lie, for every time and for all times since 1970;
* `window_too_long`: settings that are accepted, and no message passes the check.
-/
import MailFilter.Config.File
import MailFilter.Proofs.Checker.Window
import MailFilter.Proofs.Traffic.Counting

namespace MailFilter

variable {σ : Type}

namespace Quota

variable {settings : QuotaSettings} {l : Focus σ Counters} {f : Filter σ} {now : Timestamp}

/-! ### One operation -/

theorem exists_window_iff :
    (∃ secs, window settings = .ok secs) ↔ settings.windowSecs ≤ maxWindowSecs := by
  unfold window
  by_cases h : settings.windowSecs ≤ maxWindowSecs <;> simp [h]

/-- The window that ends at a point in time has a start, its `windowStart`, or there is a panic. -/
theorem start_cases (settings : QuotaSettings) (now : Timestamp) :
    (Spans settings now ∧ (window settings >>= cutoff now) = .ok (windowStart settings now)) ∨
    (¬ Spans settings now ∧ ∃ p, (window settings >>= cutoff now) = .error p) := by
  by_cases h : Spans settings now
  · exact .inl ⟨h, start_of_spans h⟩
  · refine .inr ⟨h, ?_⟩
    cases hstart : window settings >>= cutoff now with
    | ok start => exact absurd (fits_iff.1 ⟨start, hstart⟩) h
    | error p => exact ⟨p, rfl⟩

theorem count_eq_map (settings : QuotaSettings) (c : Counters) (key : String) (now : Timestamp) :
    count settings c key now = (window settings >>= cutoff now).map (c.countAfter key) := by
  unfold count
  cases window settings with
  | error p => rfl
  | ok secs =>
    show (cutoff now secs >>= fun start => pure (c.countAfter key start)) = _
    show _ = (cutoff now secs).map (c.countAfter key)
    cases cutoff now secs <;> rfl

theorem exists_count_iff {c : Counters} {key : String} :
    (∃ n, count settings c key now = .ok n) ↔ Spans settings now := by
  rw [count_eq_map]
  rcases start_cases settings now with ⟨h, hstart⟩ | ⟨h, p, hstart⟩
  · simp [hstart, h, Except.map]
  · simp [hstart, h, Except.map]

/-- The `outcome` for a message: the check abstains, comes to an `opinion`, or panics for lack of a
start. -/
theorem outcome_cases (settings : QuotaSettings) (c : Counters) (sender : Address)
    (now : Timestamp) :
    (sender.isNull = true ∧ outcome settings c sender now = .abstained) ∨
    (sender.isNull = false ∧ Spans settings now ∧
      ∃ n, outcome settings c sender now = .opinion (opinion settings (senderKey sender) n)) ∨
    (sender.isNull = false ∧ ¬ Spans settings now ∧
      ∃ p, outcome settings c sender now = .panicked p) := by
  have hcount : (∃ n, count settings c (senderKey sender) now = .ok n) ↔ Spans settings now :=
    exists_count_iff
  rw [← hcount, outcome]
  cases hnull : sender.isNull with
  | true => exact .inl ⟨rfl, rfl⟩
  | false =>
    rw [if_neg Bool.false_ne_true]
    dsimp only
    cases count settings c (senderKey sender) now with
    | ok n => exact .inr (.inl ⟨rfl, ⟨n, rfl⟩, n, rfl⟩)
    | error p => exact .inr (.inr ⟨rfl, by simp, p, rfl⟩)

theorem panicked_outcome_iff {c : Counters} {sender : Address} :
    (∃ p, outcome settings c sender now = .panicked p) ↔
      sender.isNull = false ∧ ¬ Spans settings now := by
  rcases outcome_cases settings c sender now with
    ⟨hnull, h⟩ | ⟨-, hspans, n, h⟩ | ⟨hnull, hnot, p, h⟩
  · simp [h, hnull]
  · simp [h, hspans]
  · simp [h, hnull, hnot]

/-- Recording an event with `settle` goes as far as the window has a start. -/
theorem settle_permit (c : Counters) (key : String) :
    settle settings key .permit now c
      = if Spans settings now then c.record key now (windowStart settings now) else c := by
  unfold settle
  rw [if_pos rfl]
  rcases start_cases settings now with ⟨h, hstart⟩ | ⟨h, p, hstart⟩
  · rw [hstart, if_pos h]
  · rw [hstart, if_neg h]

/-! ### The result in a verdict -/

/-- An `opinion` does not count as an error, whatever its score. -/
theorem effectiveAction_opinion_ne (settings : QuotaSettings) (key : String) (n : Nat) :
    CheckResult.effectiveAction (opinion settings key n).action (opinion settings key n).score
      ≠ .error := by
  have haction : (opinion settings key n).action = .tempfail ∨
      (opinion settings key n).action = .permit := by
    unfold opinion
    split
    · exact .inl rfl
    · exact .inr rfl
  unfold CheckResult.effectiveAction
  rcases haction with h | h <;> rw [h] <;> split <;> simp

/-- What the check of the quotas comes to, as the verdict has it. -/
def finding (errorScore : Float) (o : CheckOutcome) : Option (CheckResult Float) :=
  (Judging.resultOf "quotas" errorScore o).map fun r =>
    { r with module := "quotas", elapsedMs := 0 }.normalized

/-- A check that has panicked, and no other, has a `finding` that counts as failed. -/
theorem exists_error_finding_iff (errorScore : Float) (c : Counters) (sender : Address) :
    (∃ r ∈ finding errorScore (outcome settings c sender now), r.action = .error) ↔
      sender.isNull = false ∧ ¬ Spans settings now := by
  rcases outcome_cases settings c sender now with
    ⟨hnull, hout⟩ | ⟨-, hspans, n, hout⟩ | ⟨hnull, hnot, p, hout⟩
  · rw [hout]
    simp [finding, Judging.resultOf, hnull]
  · rw [hout]
    refine iff_of_false ?_ fun hboth => hboth.2 hspans
    rintro ⟨r, hr, herror⟩
    obtain rfl := Option.some.inj hr
    exact effectiveAction_opinion_ne settings _ n herror
  · rw [hout]
    exact iff_of_true ⟨_, rfl, CheckResult.effectiveAction_error _⟩ ⟨hnull, hnot⟩

/-- What a verdict has of the quotas: the `finding` of their check if it has been `Collected`, and else
nothing. -/
theorem results_quotas (h : Installed settings l f) (st : FilterState σ) (config : Config)
    (ctx : CheckContext) : ∃ c,
    ((f.verdictAt st config ctx).results.map CheckResult.unweighted).filter
        (fun r => r.module = "quotas")
      = if Collected f st config ctx then
          (finding config.scoring.errorScore
            (outcome settings c ctx.message.sender st.clock)).toList
        else [] := by
  obtain ⟨before, after, henabled, hnames, hplace⟩ := h.exists_split
  refine ⟨l.get (Judging.startAll config ctx st.clock 0 before st.memory).2, ?_⟩
  have hresults := Judging.results_judge config ctx st.clock henabled hnames st.metrics st.memory
  rw [Judging.opinion_of_prompt (Nat.zero_le _), Option.map_map] at hresults
  have hcollected : (Judging.start f.registry config ctx st.clock st.memory).1.Collects
      before.length ↔ Collected f st config ctx := by
    rw [Collected, hplace]
    rfl
  exact hresults.trans (if_congr hcollected rfl rfl)

/-- The result of the quotas in a verdict is that of a failed check exactly if the window of a sender has
no start. -/
theorem exists_error_quotas_iff (h : Installed settings l f) (st : FilterState σ) (config : Config)
    (ctx : CheckContext) :
    (∃ r ∈ (f.verdictAt st config ctx).results, r.module = "quotas" ∧ r.action = .error) ↔
      Collected f st config ctx ∧ ctx.message.sender.isNull = false ∧ ¬ Spans settings st.clock := by
  obtain ⟨c, hresults⟩ := results_quotas h st config ctx
  -- weights leave names and dispositions as they are
  have hunweighted : (∃ r ∈ (f.verdictAt st config ctx).results,
      r.module = "quotas" ∧ r.action = .error) ↔
      ∃ r ∈ ((f.verdictAt st config ctx).results.map CheckResult.unweighted).filter
        (fun r => r.module = "quotas"), r.action = .error := by
    simp [CheckResult.unweighted, and_assoc]
  rw [hunweighted, hresults, ← exists_error_finding_iff config.scoring.errorScore c]
  by_cases hcollected : Collected f st config ctx <;> simp [hcollected]

/-! ### Where the limits lie -/

/-- What `Installed` quotas do at a point in time, and when that ends in a panic. -/
structure Limited (settings : QuotaSettings) (f : Filter σ) (now : Timestamp) : Prop where
  /-- The length of a window has a limit of its own. -/
  window : (∃ secs, window settings = .ok secs) ↔ settings.windowSecs ≤ maxWindowSecs
  count : ∀ c key, (∃ n, count settings c key now = .ok n) ↔ Spans settings now
  check : ∀ c sender, (∃ p, outcome settings c sender now = .panicked p) ↔
    sender.isNull = false ∧ ¬ Spans settings now
  /-- An event is recorded, or the request to do so panics and nothing changes. -/
  record : ∀ c key, settle settings key .permit now c
    = if Spans settings now then c.record key now (windowStart settings now) else c
  /-- A verdict has the result of a failed check, if it is collected. -/
  verdict : ∀ st config ctx, st.clock = now →
    ((∃ r ∈ (f.verdictAt st config ctx).results, r.module = "quotas" ∧ r.action = .error) ↔
      Collected f st config ctx ∧ ctx.message.sender.isNull = false ∧ ¬ Spans settings now)

/-- How many seconds the calendar reaches back from the start of 1970. -/
def calendarSecs : Nat := 8334601228800

theorem nanos_earliest : earliest.nanos = -(calendarSecs * Timestamp.second) := by decide

/-- A window that `Spans` once does at all later times. -/
theorem Spans.mono {t : Timestamp} (h : Spans settings now) (hle : now.nanos ≤ t.nanos) :
    Spans settings t :=
  ⟨h.1, Int.le_trans h.2 (start_le hle _)⟩

/-- Since 1970 the calendar decides how long a window may be: no longer than `calendarSecs`. -/
theorem spans_since_epoch_iff :
    (∀ now : Timestamp, 0 ≤ now.nanos → Spans settings now) ↔
      settings.windowSecs ≤ calendarSecs := by
  have hepoch : Spans settings ⟨0, false⟩ ↔ settings.windowSecs ≤ calendarSecs := by
    simp only [Spans, nanos_earliest, windowStart, Timestamp.laterSecs, Timestamp.later,
      Timestamp.second, calendarSecs, maxWindowSecs]
    omega
  exact ⟨fun h => hepoch.1 (h _ (Int.le_refl _)), fun h now hnow => (hepoch.2 h).mono hnow⟩

/-- **What the quotas do goes without a panic exactly as far as the calendar reaches back a window**, so
that it `Spans`. Where it does not, every check of a message with a sender panics, and counts as failed
if it is collected; nothing is recorded. Since 1970 it always does for windows of up to `calendarSecs`,
which is 264 thousand years, and for no longer ones. -/
theorem limited (h : Installed settings l f) :
    (∀ now, Limited settings f now) ∧
      (∀ now t : Timestamp, now.nanos ≤ t.nanos → Spans settings now → Spans settings t) ∧
      ((∀ now : Timestamp, 0 ≤ now.nanos → Spans settings now) ↔
        settings.windowSecs ≤ calendarSecs) := by
  refine ⟨fun now => ?_, fun now t hle hspans => hspans.mono hle, spans_since_epoch_iff⟩
  exact {
    window := exists_window_iff
    count := fun c key => exists_count_iff
    check := fun c sender => panicked_outcome_iff
    record := fun c key => settle_permit c key
    verdict := fun st config ctx hclock => hclock ▸ exists_error_quotas_iff h st config ctx }

/-- The case of `limited` with windows of an hour. -/
theorem limited_hour : Installed { enabled := true } whole (behind []) ∧
    (∀ now, Limited { enabled := true } (behind []) now) ∧
    Spans { enabled := true } { nanos := 0 } :=
  ⟨installed_alone, (limited installed_alone).1,
    (limited installed_alone).2.2.2 (by decide) _ (Int.le_refl _)⟩

/-- Settings that are accepted although no message that has a sender passes the check. -/
def overlong : String :=
  "[modules.quotas]\nenabled = true\nwindow_secs = 9223372036854776\n"

/-- A window that cannot be counted in milliseconds is accepted by `Config.ofText`, and then every check
panics. -/
theorem window_too_long : ∃ config, Config.ofText overlong [] = .ok config ∧
    config.modules.quotas.enabled = true ∧
    (∀ c, outcome config.modules.quotas c (Address.ofArgument "<a@example.org>")
        (Timestamp.laterSecs { nanos := 0 } 1763000000)
      = .panicked ⟨some "TimeDelta::seconds out of bounds"⟩) := by
  have hread : (Config.ofText overlong []).toOption.map
      (fun config => (config.modules.quotas.enabled, config.modules.quotas.windowSecs))
        = some (true, 9223372036854776) := by decide +kernel
  obtain ⟨config, hconfig, htold⟩ := Config.exists_ofText hread
  obtain ⟨henabled, hsecs⟩ := Prod.ext_iff.1 htold
  refine ⟨config, hconfig, henabled, fun c => ?_⟩
  have hwindow : window config.modules.quotas
      = .error ⟨some "TimeDelta::seconds out of bounds"⟩ := by
    rw [window, if_neg]
    rw [show config.modules.quotas.windowSecs = 9223372036854776 from hsecs]
    decide
  rw [outcome, if_neg (by decide +kernel)]
  simp only [count, hwindow]
  rfl

end Quota

end MailFilter
