/-
Traffic that differs in how the settings are replaced.

The same is done to a filter twice, from the same state on, but the settings of now are replaced at
other times or by other ones. As long as sessions that connect get the same settings, the two runs go
side by side: all callbacks come to the same tasks and leave the same sessions, records and memory. They
part only in what is answered for a panic.

* `alongside_of_filter_eq`: two rows of deeds that are the same but for replacements;
* `parallel_perform`: what is done in both runs keeps them side by side;
* `settings_kept_iff`: which callbacks are answered alike;
* `settings_seep_in`: a callback that is not.
-/
import MailFilter.Proofs.Filter.Settings
import MailFilter.Proofs.Traffic.Recipients

namespace MailFilter.Traffic

variable {σ : Type}

/-! ### Deeds -/

/-- What is done to a filter. -/
inductive Deed (σ : Type) where
  | connect (ip : Option Ip) (port : Option Nat) (reverseDns : Option String)
  | call (session : Option Uuid) (callback : Callback)
  | go (thread : Nat)
  | prune (now : Timestamp)
  | overrideConfig (session : Uuid) (config : Config)
  /-- The settings of now are replaced, be it by those of a file. -/
  | replaceConfig (config : Config)
  | elapse (nanos : Nat)
  | settle
  /-- Checkers are sent messages, or do something of their own accord. -/
  | stir (change : σ → σ)

namespace Deed

/-- Whether the settings are replaced. -/
def replaces : Deed σ → Bool
  | replaceConfig _ => true
  | _ => false

/-- The `Move` that the deed is in the state `st`. -/
def move (f : Filter σ) (st : FilterState σ) : Deed σ → Move σ
  | connect ip port reverseDns => .connect ip port reverseDns
  | call session c => .call session c
  | go i => .go i
  | prune now => .prune now
  | overrideConfig id config => .overrideConfig id config
  | replaceConfig config => .elsewhere { st with config }
  | elapse nanos => .elsewhere (st.elapse nanos)
  | settle => .elsewhere (st.settle f)
  | stir change => .elsewhere { st with memory := change st.memory }

/-- The settings that a session gets in the state `st` if the deed is that it connects. -/
def given? (st : FilterState σ) : Deed σ → Option Config
  | connect .. => some st.config
  | _ => none

end Deed

/-- One `Deed`. -/
def perform (f : Filter σ) (T : Traffic σ) (d : Deed σ) : Traffic σ :=
  T.move f (d.move f T.state)

/-- Deeds one after the other, each by `perform`. -/
def performAll (f : Filter σ) (T : Traffic σ) (deeds : List (Deed σ)) : Traffic σ :=
  deeds.foldl (perform f) T

/-- The settings that sessions get as they connect, by `given?`, in this order. -/
def given (f : Filter σ) (T : Traffic σ) : List (Deed σ) → List Config
  | [] => []
  | d :: rest => (d.given? T.state).toList ++ given f (T.perform f d) rest

/-! ### The same but for replacements -/

/-- Two rows of deeds that are the same but for replacements of the settings: deeds that `replaces` tells
of. -/
inductive Alongside : List (Deed σ) → List (Deed σ) → Prop where
  | nil : Alongside [] []
  | left {config : Config} {ds ds' : List (Deed σ)} (h : Alongside ds ds') :
      Alongside (.replaceConfig config :: ds) ds'
  | right {config : Config} {ds ds' : List (Deed σ)} (h : Alongside ds ds') :
      Alongside ds (.replaceConfig config :: ds')
  | both {d : Deed σ} {ds ds' : List (Deed σ)} (hd : d.replaces = false) (h : Alongside ds ds') :
      Alongside (d :: ds) (d :: ds')

theorem Deed.eq_of_replaces {d : Deed σ} (h : d.replaces = true) :
    ∃ config, d = .replaceConfig config := by
  cases d with
  | replaceConfig config => exact ⟨config, rfl⟩
  | _ => cases h

theorem alongside_of_filter_eq {ds ds' : List (Deed σ)}
    (h : ds.filter (!·.replaces) = ds'.filter (!·.replaces)) : Alongside ds ds' := by
  induction ds generalizing ds' with
  | nil =>
    induction ds' with
    | nil => exact .nil
    | cons d' rest' ih' =>
      cases hd' : d'.replaces with
      | true =>
        obtain ⟨config, rfl⟩ := Deed.eq_of_replaces hd'
        exact .right (ih' h)
      | false => simp [hd'] at h
  | cons d rest ih =>
    cases hd : d.replaces with
    | true =>
      obtain ⟨config, rfl⟩ := Deed.eq_of_replaces hd
      exact .left (ih h)
    | false =>
      induction ds' with
      | nil => simp [hd] at h
      | cons d' rest' ih' =>
        cases hd' : d'.replaces with
        | true =>
          obtain ⟨config, rfl⟩ := Deed.eq_of_replaces hd'
          exact .right (ih' h)
        | false =>
          -- neither is a replacement: they are the same deed
          simp only [List.filter_cons, hd, hd', Bool.not_false, if_true, List.cons.injEq] at h
          obtain ⟨rfl, hrest⟩ := h
          exact .both hd (ih hrest)

/-! ### Side by side -/

/-- Whenever the callback `i` answers for a panic, the settings of now in the two runs agree on whether
panics are let out. -/
def PanicsAlike (T T' : Traffic σ) (i : Nat) : Prop :=
  ∀ x ∈ T.log.zip T'.log, x.1.thread = i → x.1.task.isPanic = true →
    x.2.before.config.milter.propagatePanics = x.1.before.config.milter.propagatePanics

/-- The tasks that callbacks have carried out, by the `log`. -/
def tasks (T : Traffic σ) : List (Nat × Task σ) :=
  T.log.map fun e => (e.thread, e.task)

/-- Two runs in which everything is the same but the settings of now, and what callbacks have been
answered for a panic: these are the same for the callbacks with `PanicsAlike`. -/
structure Parallel (T T' : Traffic σ) : Prop where
  state : T.state.Alike T'.state
  length : T'.threads.length = T.threads.length
  thread : ∀ (i : Nat) (t t' : Thread σ), T.threads[i]? = some t → T'.threads[i]? = some t' →
    t' = t ∨ (t.progress.task? = none ∧ t'.progress.task? = none)
  tasks : T'.tasks = T.tasks
  taken : ∀ e ∈ T.log, e.thread < T.threads.length
  same : ∀ i, T'.threads[i]? = T.threads[i]? ↔ T.PanicsAlike T' i

theorem Parallel.log_length {T T' : Traffic σ} (h : T.Parallel T') :
    T.log.length = T'.log.length := by
  have hlength := congrArg List.length h.tasks
  rw [Traffic.tasks, Traffic.tasks, List.length_map, List.length_map] at hlength
  exact hlength.symm

section

variable {f : Filter σ} {T T' : Traffic σ}

/-- A run is `Parallel` to itself. -/
theorem parallel_refl (htraced : T.Traced f) : T.Parallel T where
  state := .refl _
  length := rfl
  thread := by
    intro i t t' hi hi'
    rw [hi] at hi'
    exact .inl (Option.some.inj hi').symm
  tasks := rfl
  taken := htraced.taken
  same := by
    intro i
    refine ⟨fun _ x hx _ _ => ?_, fun _ => rfl⟩
    obtain ⟨k, hk⟩ := List.getElem?_of_mem hx
    obtain ⟨h₁, h₂⟩ := List.getElem?_zip_eq_some.1 hk
    rw [h₁] at h₂
    rw [Option.some.inj h₂]

/-- Something is done to the states alone, and the runs stay `Parallel`. -/
theorem Parallel.withState (h : T.Parallel T') {st st' : FilterState σ} (hst : st.Alike st') :
    ({ T with state := st } : Traffic σ).Parallel { T' with state := st' } :=
  ⟨hst, h.length, h.thread, h.tasks, h.taken, h.same⟩

/-- A callback is taken in both runs, and they stay `Parallel`. -/
theorem Parallel.call (h : T.Parallel T') (session : Option Uuid) (c : Callback) :
    (T.move f (.call session c)).Parallel (T'.move f (.call session c)) := by
  have hcall : Filter.call session c T'.state = Filter.call session c T.state := by
    unfold Filter.call
    rw [h.state.sessions]
  show ({ T with threads := T.threads ++ [⟨session, c, Filter.call session c T.state⟩] } :
      Traffic σ).Parallel
    { T' with threads := T'.threads ++ [⟨session, c, Filter.call session c T'.state⟩] }
  rw [hcall]
  constructor
  · exact h.state
  · rw [List.length_append, List.length_append, h.length]
  · intro i t t' hi hi'
    rcases getElem?_concat_iff.1 hi with hi | ⟨hlast, rfl⟩ <;>
      rcases getElem?_concat_iff.1 hi' with hi' | ⟨hlast', rfl⟩
    · exact h.thread i t t' hi hi'
    · obtain ⟨hlt, -⟩ := List.getElem?_eq_some_iff.1 hi
      have hlength := h.length
      omega
    · obtain ⟨hlt, -⟩ := List.getElem?_eq_some_iff.1 hi'
      have hlength := h.length
      omega
    · exact .inl rfl
  · exact h.tasks
  · intro e he
    have hlt := h.taken e he
    rw [List.length_append]
    omega
  · intro i
    show (T'.threads ++ _)[i]? = (T.threads ++ _)[i]? ↔ T.PanicsAlike T' i
    rw [List.getElem?_append, List.getElem?_append, h.length]
    split
    · exact h.same i
    · next hge =>
      -- nothing in the log is of a callback that has just been taken
      refine ⟨fun _ x hx hthread _ => ?_, fun _ => rfl⟩
      have hlt := h.taken x.1 (List.of_mem_zip hx).1
      omega

theorem go_of_task {i : Nat} {t : Thread σ} {task : Task σ} (hi : T.threads[i]? = some t)
    (ht : t.progress.task? = some task) :
    T.go f i = T.extend ⟨i, task, T.state, (f.step T.state task).1, (f.step T.state task).2⟩
      (T.threads.set i { t with progress := (f.step T.state task).1 }) := by
  simp only [Traffic.go, hi, ht]

theorem go_of_over {i : Nat} (h : ∀ t, T.threads[i]? = some t → t.progress.task? = none) :
    T.go f i = T := by
  unfold Traffic.go
  cases hi : T.threads[i]? with
  | none => rfl
  | some t => simp only [h t hi]

/-- A callback carries out the same task in both runs, and they stay `Parallel`. -/
theorem Parallel.extend (h : T.Parallel T') {i : Nat} {t : Thread σ} {task : Task σ}
    (hi : T.threads[i]? = some t) (hi' : T'.threads[i]? = some t)
    (ht : t.progress.task? = some task) :
    (T.go f i).Parallel (T'.go f i) := by
  obtain ⟨hstate, hdone, hiff⟩ := Filter.alike_step h.state f task
  rw [go_of_task hi ht, go_of_task hi' ht]
  generalize f.step T.state task = r at hstate hdone hiff
  generalize f.step T'.state task = r' at hstate hdone hiff
  constructor
  · exact hstate
  · rw [List.length_set, List.length_set]
    exact h.length
  · intro j u u' hj hj'
    rcases (getElem?_set_iff hi).1 hj with ⟨rfl, rfl⟩ | ⟨hne, hj⟩ <;>
      rcases (getElem?_set_iff hi').1 hj' with ⟨heq, rfl⟩ | ⟨hne', hj'⟩
    · -- the two may have been told different things, and then they are both over
      rcases hdone with hsame | hover
      · exact .inl (by rw [hsame])
      · exact .inr hover
    · exact absurd rfl hne'
    · exact absurd heq hne
    · exact h.thread j u u' hj hj'
  · show (T'.log ++ _).map _ = (T.log ++ _).map _
    rw [List.map_append, List.map_append]
    exact congrArg (· ++ _) h.tasks
  · intro e he
    rw [List.length_set]
    rcases List.mem_append.1 he with he | he
    · exact h.taken e he
    · rw [List.mem_singleton.1 he]
      exact (List.getElem?_eq_some_iff.1 hi).1
  · intro j
    -- the settings of now have to agree on the new event, too, if it answers for a panic
    have hpanics : PanicsAlike (T.extend ⟨i, task, T.state, r.1, r.2⟩
          (T.threads.set i { t with progress := r.1 }))
        (T'.extend ⟨i, task, T'.state, r'.1, r'.2⟩
          (T'.threads.set i { t with progress := r'.1 })) j ↔
        T.PanicsAlike T' j ∧ (i = j → r'.1 = r.1) := by
      rw [hiff, PanicsAlike, List.zip_append h.log_length]
      simp only [List.zip_cons_cons, List.zip_nil_right, List.forall_mem_append,
        List.forall_mem_singleton]
      rfl
    rw [hpanics, ← h.same j]
    by_cases hij : i = j
    · subst hij
      obtain ⟨hlt, -⟩ := List.getElem?_eq_some_iff.1 hi
      obtain ⟨hlt', -⟩ := List.getElem?_eq_some_iff.1 hi'
      rw [List.getElem?_set_self hlt, List.getElem?_set_self hlt', hi, hi']
      simp
    · rw [List.getElem?_set_ne hij, List.getElem?_set_ne hij]
      exact (and_iff_left fun heq => absurd heq hij).symm

/-- A callback makes its move in both runs, and they stay `Parallel`. -/
theorem Parallel.go (h : T.Parallel T') (i : Nat) :
    (T.move f (.go i)).Parallel (T'.move f (.go i)) := by
  show (T.go f i).Parallel (T'.go f i)
  cases hi : T.threads[i]? with
  | none =>
    have hi' : T'.threads[i]? = none := by
      rw [List.getElem?_eq_none_iff] at hi ⊢
      rwa [h.length]
    rw [go_of_over (by simp [hi]), go_of_over (by simp [hi'])]
    exact h
  | some t =>
    obtain ⟨hlt, -⟩ := List.getElem?_eq_some_iff.1 hi
    obtain ⟨t', hi'⟩ : ∃ t', T'.threads[i]? = some t' :=
      ⟨_, List.getElem?_eq_getElem (h.length ▸ hlt)⟩
    rcases h.thread i t t' hi hi' with rfl | ⟨hover, hover'⟩
    · cases ht : t'.progress.task? with
      | none => rw [go_of_over (by simp [hi, ht]), go_of_over (by simp [hi', ht])]; exact h
      | some task => exact h.extend hi hi' ht
    · rw [go_of_over (by simp [hi, hover]), go_of_over (by simp [hi', hover'])]
      exact h

/-- What is done in both runs keeps them `Parallel`, if sessions that connect get the same settings. -/
theorem parallel_perform (h : T.Parallel T') {d : Deed σ} (hd : d.replaces = false)
    (hgiven : d.given? T'.state = d.given? T.state) :
    (T.perform f d).Parallel (T'.perform f d) := by
  cases d with
  | connect ip port reverseDns =>
    exact h.withState (h.state.connect (Option.some.inj hgiven) ip port reverseDns)
  | call session c => exact h.call session c
  | go i => exact h.go i
  | prune now => exact h.withState (h.state.prune f now)
  | overrideConfig id config => exact h.withState (h.state.overrideConfig id config)
  | replaceConfig config => cases hd
  | elapse nanos =>
    refine h.withState ⟨congrArg (Timestamp.later · nanos) h.state.1, h.state.2, h.state.3, h.state.4,
      h.state.5, h.state.6⟩
  | settle =>
    have hsettled := h.state.settle f
    exact h.withState ⟨hsettled.1, h.state.2, h.state.3, hsettled.4, hsettled.5, hsettled.6⟩
  | stir change =>
    exact h.withState ⟨h.state.1, h.state.2, h.state.3, congrArg change h.state.4, h.state.5,
      h.state.6⟩

theorem parallel_run {ds ds' : List (Deed σ)} (h : T.Parallel T') (hds : Alongside ds ds')
    (hgiven : T'.given f ds' = T.given f ds) :
    (T.performAll f ds).Parallel (T'.performAll f ds') := by
  induction hds generalizing T T' with
  | nil => exact h
  | @left config ds ds' _ ih =>
    refine ih ?_ hgiven
    exact h.withState ⟨h.state.1, h.state.2, h.state.3, h.state.4, h.state.5, h.state.6⟩
  | @right config ds ds' _ ih =>
    refine ih ?_ hgiven
    exact h.withState ⟨h.state.1, h.state.2, h.state.3, h.state.4, h.state.5, h.state.6⟩
  | @both d ds ds' hd _ ih =>
    have hparts : d.given? T'.state = d.given? T.state ∧
        (T'.perform f d).given f ds' = (T.perform f d).given f ds := by
      have hboth : (d.given? T'.state).toList ++ (T'.perform f d).given f ds'
          = (d.given? T.state).toList ++ (T.perform f d).given f ds := hgiven
      cases d with
      | connect ip port reverseDns =>
        rw [Deed.given?, Deed.given?, Option.toList_some, Option.toList_some, List.singleton_append,
          List.singleton_append, List.cons.injEq] at hboth
        exact ⟨congrArg some hboth.1, hboth.2⟩
      | _ => exact ⟨rfl, hboth⟩
    exact ih (parallel_perform h hd hparts.1) hparts.2

theorem traced_performAll (hT : T.Sound) (htraced : T.Traced f) (ds : List (Deed σ)) :
    (T.performAll f ds).Traced f := by
  induction ds generalizing T with
  | nil => exact htraced
  | cons d rest ih =>
    have hmoved := moved_move f hT (d.move f T.state)
    exact ih (sound_of_moved hT hmoved) (traced_of_moved htraced hmoved)

end

/-! ### What the settings of now decide -/

/-- **Sessions keep the settings that they have connected with**, except that the settings of now decide
whether a panic is let out. Two runs that differ in replacements of the settings of now only, and in
which later sessions get the same settings, carry out the same tasks and leave the same sessions, records
and memory; and a callback is answered alike in both just if the settings of now agree whenever it is
answered for a panic. -/
theorem settings_kept_iff (f : Filter σ) (st : FilterState σ) (before ds ds' : List (Deed σ))
    {T₀ T T' : Traffic σ} (h₀ : T₀ = (start st).performAll f before)
    (hT : T = T₀.performAll f ds) (hT' : T' = T₀.performAll f ds')
    (hsame : ds.filter (!·.replaces) = ds'.filter (!·.replaces))
    (hgiven : T₀.given f ds' = T₀.given f ds) :
    T.state.Alike T'.state ∧ T'.tasks = T.tasks ∧
      ∀ i, T'.threads[i]? = T.threads[i]? ↔ T.PanicsAlike T' i := by
  have htraced : T₀.Traced f := by
    rw [h₀]
    exact traced_performAll (sound_start st) (traced_start f st) before
  have hparallel : T.Parallel T' := by
    rw [hT, hT']
    exact parallel_run (parallel_refl htraced) (alongside_of_filter_eq hsame) hgiven
  exact ⟨hparallel.state, hparallel.tasks, hparallel.same⟩

/-- A client starts a message. -/
def sender : List (Deed Unit) :=
  [.connect none none none, .call (some (Uuid.issued 0)) (.envFrom ["<a@example.org>"] {}), .go 0]

/-- The client of `sender` names a recipient. -/
def recipientNamed : List (Deed Unit) :=
  [.call (some (Uuid.issued 0)) (.envRcpt ["<b@example.com>"]), .go 1, .go 1, .go 1]

/-- Other settings make no difference even to a callback that panics, as that of `frail` does, if they
let out no panics either. -/
theorem settings_kept_listed :
    let T₀ := (start (.blank {})).performAll frail sender
    let T := T₀.performAll frail recipientNamed
    let T' := T₀.performAll frail (.replaceConfig lenient.config :: recipientNamed)
    T'.threads[1]? = T.threads[1]? := by
  intro T₀ T T'
  have hpanics : T.PanicsAlike T' 1 := by
    unfold PanicsAlike
    decide +kernel
  obtain ⟨-, -, hiff⟩ := settings_kept_iff frail (.blank {}) sender recipientNamed
    (.replaceConfig lenient.config :: recipientNamed) rfl rfl rfl rfl rfl
  exact (hiff 1).2 hpanics

/-- A client is told to try again later, or its connection is left to a panic over `frail`: that depends
on settings that have been put in place after it connected. -/
theorem settings_seep_in :
    let T₀ := (start (.blank {})).performAll frail sender
    let T := T₀.performAll frail recipientNamed
    let T' := T₀.performAll frail
      (.replaceConfig { milter := { propagatePanics := true } } :: recipientNamed)
    T.threads[1]? = some ⟨some (Uuid.issued 0), .envRcpt ["<b@example.com>"],
        .replied (.tempfail Reply.localErrorText)⟩ ∧
      T'.threads[1]? = some ⟨some (Uuid.issued 0), .envRcpt ["<b@example.com>"],
        .done (.error ⟨some "boom"⟩)⟩ := by
  intro T₀ T T'
  exact ⟨by with_unfolding_all rfl, by with_unfolding_all rfl⟩

end MailFilter.Traffic
