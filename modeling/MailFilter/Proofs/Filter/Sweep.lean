/-
Which sessions a sweep gives up.

A sweep looks at every session that can be found, and gives up those that have been connected for longer
than the age in the settings. An age that cannot be counted in milliseconds is not taken as it is: then
sessions are given up after a quarter of an hour, as they are if the settings say nothing.

* `Config.ceilingSecs`: the age that counts;
* `found_of_prune_iff`: what can be found after a sweep;
* `sweeps_exactly`: what a sweep does, and that it gives up no more if the age is raised;
* `early_sweep`: a session given up long before its age.
-/
import MailFilter.Config.File
import MailFilter.Proofs.Filter.Outcome
import MailFilter.Proofs.Traffic.Basic

namespace MailFilter

variable {σ : Type}

/-- A point in time, `secs` seconds after the start of 1970. -/
def Timestamp.ofSecs (secs : Nat) : Timestamp :=
  Timestamp.laterSecs { nanos := 0 } secs

/-- The age in seconds at which a session is given up, by the settings: what `Filter.new`
makes of them. -/
def Config.ceilingSecs (config : Config) : Nat :=
  if config.milter.sessionMaxAgeSecs ≤ Filter.maxMeasurableSecs then
    config.milter.sessionMaxAgeSecs
  else 900

namespace Filter

variable {f : Filter σ} {st : FilterState σ}

/-! ### One sweep -/

/-- A sweep at the time `now`, when sessions are given up after `secs` seconds. -/
structure Sweeps (f : Filter σ) (secs : Nat) (now : Timestamp) (st : FilterState σ) : Prop where
  /-- The sessions that can be found afterwards are those that could be found before and have not been
  connected for longer; they are as they were. -/
  found : ∀ id s, (st.prune f now).2.sessions.find? id = some s ↔
    st.sessions.find? id = some s ∧ now.since s.connectedAt ≤ secs * Timestamp.second
  /-- The sweep yields the number of the others. -/
  removed : (st.prune f now).1
    = st.sessions.live.countP fun s => secs * Timestamp.second < now.since s.connectedAt
  /-- So many are counted as evicted. -/
  counted : (st.prune f now).2.metrics.sessionsPruned
    = st.metrics.sessionsPruned + (st.prune f now).1

theorem sessionsPruned_foldl_evict (f : Filter σ) (removed : List Session) (st : FilterState σ) :
    (removed.foldl (FilterState.evict f) st).metrics.sessionsPruned
      = st.metrics.sessionsPruned + removed.length := by
  induction removed generalizing st with
  | nil => rfl
  | cons s rest ih =>
    rw [List.foldl_cons, ih, List.length_cons]
    show st.metrics.sessionsPruned + 1 + rest.length = _
    omega

theorem found_of_prune_iff (hd : st.sessions.Distinct) (f : Filter σ) (now : Timestamp) {id : Uuid}
    {s : Session} : (st.prune f now).2.sessions.find? id = some s ↔
      st.sessions.find? id = some s ∧
        now.since s.connectedAt ≤ f.maxAgeSecs * Timestamp.second := by
  rw [(prune_keeps f now st).1, SessionTable.removeExpired,
    SessionTable.find?_removeWhere_iff hd]
  simp [SessionTable.isExpired]

theorem sweeps (hd : st.sessions.Distinct) (f : Filter σ) (now : Timestamp) :
    Sweeps f f.maxAgeSecs now st where
  found _ _ := found_of_prune_iff hd f now
  removed := (List.countP_eq_length_filter ..).symm
  counted := sessionsPruned_foldl_evict ..

/-- Nobody is given up earlier by a filter with a greater `maxAgeSecs`. -/
theorem found_of_prune_mono (hd : st.sessions.Distinct) {f f' : Filter σ}
    (h : f.maxAgeSecs ≤ f'.maxAgeSecs) {now : Timestamp} {id : Uuid} {s : Session}
    (hs : (st.prune f now).2.sessions.find? id = some s) :
    (st.prune f' now).2.sessions.find? id = some s := by
  rw [found_of_prune_iff hd] at hs ⊢
  have hages : (f.maxAgeSecs * Timestamp.second : Int) ≤ f'.maxAgeSecs * Timestamp.second :=
    Int.mul_le_mul_of_nonneg_right (Int.ofNat_le.2 h) (by decide)
  exact ⟨hs.1, Int.le_trans hs.2 hages⟩

/-! ### By the settings -/

/-- **A sweep gives up exactly the sessions that have outlived their age.** The age is the one in the
settings, if it can be counted in milliseconds: `Config.ceilingSecs`. As long as it can be, a session
that is kept by some settings is kept by all settings with a greater age. -/
theorem sweeps_exactly (registry : Registry σ) (config : Config) (hd : st.sessions.Distinct)
    (now : Timestamp) :
    Sweeps (Filter.new registry config) config.ceilingSecs now st ∧
      ∀ config' : Config, config.milter.sessionMaxAgeSecs ≤ config'.milter.sessionMaxAgeSecs →
        config'.milter.sessionMaxAgeSecs ≤ maxMeasurableSecs →
        ∀ id s, (st.prune (Filter.new registry config) now).2.sessions.find? id = some s →
          (st.prune (Filter.new registry config') now).2.sessions.find? id = some s := by
  refine ⟨sweeps hd _ now, fun config' hle hmeasurable id s hs => ?_⟩
  refine found_of_prune_mono hd ?_ hs
  show config.ceilingSecs ≤ config'.ceilingSecs
  rw [Config.ceilingSecs, Config.ceilingSecs, if_pos hmeasurable,
    if_pos (Nat.le_trans hle hmeasurable)]
  exact hle

/-- A filter with two sessions, of which the second has connected 50 seconds after the first. -/
def visited : FilterState Unit :=
  { FilterState.blank {} with
    sessions := (({} : SessionTable).insert
      (Session.new (Uuid.issued 0) {} (.ofSecs 0) none none none)).insert
      (Session.new (Uuid.issued 1) {} (.ofSecs 50) none none none) }

/-- After 950 seconds the first session has outlived its age, and the second has just reached it. -/
theorem sweeps_exactly_one : visited.sessions.Distinct ∧
    Sweeps (Filter.new ⟨[]⟩ {}) 900 (.ofSecs 950) visited ∧
    (visited.prune (Filter.new ⟨[]⟩ {}) (.ofSecs 950)).1 = 1 ∧
    (visited.sessions.find? (Uuid.issued 1)).isSome = true := by
  have hd : visited.sessions.Distinct := by
    rw [SessionTable.Distinct]
    decide +kernel
  have hsweeps := (sweeps_exactly ⟨[]⟩ {} hd (.ofSecs 950)).1
  refine ⟨hd, hsweeps, ?_, by decide +kernel⟩
  rw [hsweeps.removed]
  decide +kernel

/-- Settings that are accepted, with an age above `Filter.maxMeasurableSecs`. -/
def ageless : String :=
  "[milter]\nsession_max_age_secs = 9223372036854776\n"

/-- A session is given up after 950 seconds, although the settings allow it an age of many million years,
and settings that allow it 1000 seconds keep it. -/
theorem early_sweep : ∃ config, Config.ofText ageless [] = .ok config ∧
    (∃ s, visited.sessions.find? (Uuid.issued 0) = some s ∧
      (Timestamp.ofSecs 950).since s.connectedAt ≤ config.milter.sessionMaxAgeSecs * Timestamp.second) ∧
    (visited.prune (Filter.new ⟨[]⟩ config) (.ofSecs 950)).2.sessions.find? (Uuid.issued 0) = none ∧
    ∀ config' : Config, config'.milter.sessionMaxAgeSecs = 1000 →
      config'.milter.sessionMaxAgeSecs ≤ config.milter.sessionMaxAgeSecs ∧
      ((visited.prune (Filter.new ⟨[]⟩ config') (.ofSecs 950)).2.sessions.find?
        (Uuid.issued 0)).isSome = true := by
  have hread : (Config.ofText ageless []).toOption.map (·.milter.sessionMaxAgeSecs)
      = some 9223372036854776 := by decide +kernel
  obtain ⟨config, hconfig, hage⟩ := Config.exists_ofText hread
  have hnew : (Filter.new (⟨[]⟩ : Registry Unit) config) = ⟨⟨[]⟩, 900⟩ := by
    rw [Filter.new, hage]
    rfl
  refine ⟨config, hconfig, ⟨_, rfl, ?_⟩, ?_, fun config' hage' => ⟨?_, ?_⟩⟩
  · rw [hage]
    decide +kernel
  · rw [hnew]
    rfl
  · rw [hage, hage']
    decide
  · rw [Filter.new, hage']
    decide +kernel

end Filter

end MailFilter
