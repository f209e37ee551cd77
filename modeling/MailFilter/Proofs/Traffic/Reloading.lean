/-
A session of which the others have other settings.

When the settings of now are replaced, the sessions that connect afterwards get other ones, and their
messages are judged in another way. A session that is there already does not notice it: as long as the
memory of the checkers has no say in what they find, all that is done for it goes as it would have gone
without the replacement. Two such runs `T` and `T'` have the same `Traffic.Outlines`: they have the same
sessions and callbacks, and what is to be called next is the same. Of the session `id` they have
everything else in common, too, and that is `Traffic.Shares`.

* `outlines_perform`, `shares_perform`: what is done in both runs keeps them so;
* `settings_kept_alone`: what a session comes to does not depend on the settings that others get.
-/
import MailFilter.Proofs.Filter.Outline
import MailFilter.Proofs.Traffic.Alone
import MailFilter.Proofs.Traffic.Judged

namespace MailFilter

variable {σ : Type}

/-! ### A task of the session -/

namespace Filter

variable {f : Filter σ} {id : Uuid} {st st' : FilterState σ} {task : Task σ}

/-- A task of the session `id` does the same in states that have in common what `FilterState.Alone` keeps
of them, except for the settings of now: these decide what is answered for a panic. -/
theorem shares_step (hf : ∀ c ∈ f.registry.enabled, c.Memoryless) (houtlines : st.Outlines st')
    (hsessions : st'.sessions.only id = st.sessions.only id) (hid : task.session? = some id)
    (hunasked : ∀ c ∈ task.unasked, c.Memoryless) :
    (step f st' task).2.sessions.only id = (step f st task).2.sessions.only id ∧
      task.hands st' = task.hands st ∧
      ((step f st' task).1 = (step f st task).1 ∨
        ((step f st task).1.task? = none ∧ (step f st' task).1.task? = none)) ∧
      ((step f st' task).1 = (step f st task).1 ↔ (task.isPanic = true →
        st'.config.milter.propagatePanics = st.config.milter.propagatePanics)) := by
  -- the session alone, under the settings of now of the one state and of the other
  let only : FilterState σ := { st' with sessions := st.sessions.only id, config := st.config }
  let only' : FilterState σ := { only with config := st'.config }
  have halone : st.Alone id only := ⟨rfl, houtlines.clock, houtlines.serial, rfl⟩
  have halone' : st'.Alone id only' := ⟨rfl, rfl, rfl, hsessions.symm⟩
  have halike : only.Alike only' := ⟨rfl, rfl, rfl, rfl, rfl, rfl⟩
  obtain ⟨hsame, hkept⟩ := alone_step hf halone hid hunasked
  obtain ⟨hsame', hkept'⟩ := alone_step hf halone' hid hunasked
  obtain ⟨hstates, hover, hiff⟩ := alike_step halike f task
  rw [hsame, hsame'] at hover hiff
  refine ⟨?_, ?_, hover, hiff⟩
  · rw [← hkept.sessions, ← hkept'.sessions, hstates.sessions]
  · have hhands : task.hands only' = task.hands only := by
      cases task with
      | called i c => cases c <;> rfl
      | _ => rfl
    rw [← hands_alone halone hid, ← hands_alone halone' hid, hhands]

end Filter

namespace Traffic

/-! ### The same sessions and callbacks -/

/-- What can be told of a callback from the outside: its session, and the call that it has still to
begin. -/
def Thread.outline (t : Thread σ) : Option Uuid × Option (Uuid × Callback) :=
  (t.session, t.progress.called?)

/-- Two runs have the same sessions and callbacks, whatever these have come to. -/
structure Outlines (T T' : Traffic σ) : Prop where
  state : T.state.Outlines T'.state
  threads : T'.threads.map Thread.outline = T.threads.map Thread.outline

section

variable {f : Filter σ} {T T' : Traffic σ} {i : Nat} {t : Thread σ}

theorem Outlines.length (h : T.Outlines T') : T'.threads.length = T.threads.length := by
  simpa using congrArg List.length h.threads

theorem Outlines.thread (h : T.Outlines T') (hi : T.threads[i]? = some t) :
    ∃ t', T'.threads[i]? = some t' ∧ t'.session = t.session ∧
      t'.progress.called? = t.progress.called? := by
  have hmap := congrArg (·[i]?) h.threads
  simp only [List.getElem?_map, hi, Option.map_some] at hmap
  obtain ⟨t', hi', houtline⟩ := Option.map_eq_some_iff.1 hmap
  obtain ⟨hsession, hcalled⟩ := Prod.mk.inj houtline
  exact ⟨t', hi', hsession, hcalled⟩

theorem Outlines.thread_eq_none (h : T.Outlines T') (hi : T.threads[i]? = none) :
    T'.threads[i]? = none := by
  rw [List.getElem?_eq_none_iff] at hi ⊢
  rwa [h.length]

theorem Sound.holds (hT : T.Sound) (hi : T.threads[i]? = some t) {task : Task σ}
    (ht : t.progress.task? = some task) : task.Holds T.state.sessions := by
  rcases hT.held i t task hi ht with ⟨id, hmem, hid⟩ | ⟨stage, reason, rfl⟩
  · exact .inl ⟨id, hmem, (hT.session i t task hi ht).trans hid⟩
  · exact .inr ⟨stage, t.session, reason, rfl⟩

theorem task?_of_called? {p : Progress σ} {id : Uuid} {c : Callback}
    (h : p.called? = some (id, c)) : p.task? = some (.called id c) := by
  obtain ⟨task, htask, hcalled⟩ := Option.bind_eq_some_iff.1 h
  cases task with
  | called id' c' =>
    obtain ⟨rfl, rfl⟩ := Prod.mk.inj (Option.some.inj hcalled)
    exact htask
  | _ => cases hcalled

/-- A callback that makes its move has begun its call by then: its `outline` tells of none. -/
theorem map_outline_go (f : Filter σ) (hi : T.threads[i]? = some t) :
    (T.go f i).threads.map Thread.outline
      = (T.threads.map Thread.outline).set i (t.session, none) := by
  cases ht : t.progress.task? with
  | some task =>
    have hcalled := Filter.called?_step f T.state task
    rw [go_of_task hi ht]
    show (T.threads.set i _).map _ = _
    rw [List.map_set, Thread.outline, hcalled]
  | none =>
    have hcalled : t.progress.called? = none := by rw [Progress.called?, ht, Option.bind_none]
    have hsame : (T.threads.map Thread.outline)[i]? = some (t.session, none) := by
      rw [List.getElem?_map, hi, Option.map_some, Thread.outline, hcalled]
    obtain ⟨hlt, hget⟩ := List.getElem?_eq_some_iff.1 hsame
    rw [go_of_over (by simp [hi, ht]), ← hget, List.set_getElem_self]

/-- A callback that has begun its call goes on, and nothing of it is seen from the outside: the state
keeps its `Outlines`. -/
theorem outlines_go_aside (hT : T.Sound) (hi : T.threads[i]? = some t)
    (hcalled : t.progress.called? = none) : T.state.Outlines (T.go f i).state := by
  cases ht : t.progress.task? with
  | some task =>
    have hbegun : task.called? = none := by rwa [Progress.called?, ht, Option.bind_some] at hcalled
    rw [go_of_task hi ht]
    exact Filter.outlines_step hT.distinct (hT.holds hi ht) hbegun
  | none =>
    rw [go_of_over (by simp [hi, ht])]
    exact .refl _

/-- A callback makes its move in both runs: it begins the same call in both, or it has begun its call in
both, and their `Outlines` stay the same. -/
theorem Outlines.go (h : T.Outlines T') (hT : T.Sound) (hT' : T'.Sound) (i : Nat) :
    (T.go f i).Outlines (T'.go f i) := by
  cases hi : T.threads[i]? with
  | none =>
    have hi' := h.thread_eq_none hi
    rw [go_of_over (by simp [hi]), go_of_over (by simp [hi'])]
    exact h
  | some t =>
    obtain ⟨t', hi', hsession, hsame⟩ := h.thread hi
    refine ⟨?_, ?_⟩
    · cases hcalled : t.progress.called? with
      | some call =>
        obtain ⟨id, c⟩ := call
        have ht := task?_of_called? hcalled
        have ht' := task?_of_called? (hsame.trans hcalled)
        rw [go_of_task hi ht, go_of_task hi' ht']
        exact h.state.step hT.distinct hT'.distinct (hT.holds hi ht) (hT'.holds hi' ht')
      | none =>
        have hmoved : T.state.Outlines (T.go f i).state := outlines_go_aside hT hi hcalled
        have hmoved' : T'.state.Outlines (T'.go f i).state :=
          outlines_go_aside hT' hi' (hsame.trans hcalled)
        exact (hmoved.symm.trans h.state).trans hmoved'
    · rw [map_outline_go f hi, map_outline_go f hi', h.threads, hsession]

theorem Outlines.call (h : T.Outlines T') (session : Option Uuid) (c : Callback) :
    (T.move f (.call session c)).Outlines (T'.move f (.call session c)) where
  state := h.state
  threads := by
    show (T'.threads ++ [_]).map _ = (T.threads ++ [_]).map _
    rw [List.map_append, List.map_append, h.threads, h.state.call_eq]

/-- What is done in both runs keeps their `Outlines` the same, whatever settings the sessions have. -/
theorem outlines_perform (h : T.Outlines T') (hT : T.Sound) (hT' : T'.Sound) {d : Deed σ}
    (hd : d.replaces = false) : (T.perform f d).Outlines (T'.perform f d) := by
  obtain ⟨hclock, hserial, hages⟩ := h.state
  cases d with
  | connect ip port reverseDns => exact ⟨h.state.connect ip port reverseDns, h.threads⟩
  | call session c => exact h.call session c
  | go i => exact h.go hT hT' i
  | prune now => exact ⟨h.state.prune hT.distinct hT'.distinct f now, h.threads⟩
  | overrideConfig i config =>
    have hover : T.state.Outlines (T.state.overrideConfig i config) :=
      .overrideConfig hT.distinct i config
    have hover' : T'.state.Outlines (T'.state.overrideConfig i config) :=
      .overrideConfig hT'.distinct i config
    exact ⟨(hover.symm.trans h.state).trans hover', h.threads⟩
  | replaceConfig config => cases hd
  | elapse nanos => exact ⟨⟨congrArg (Timestamp.later · nanos) hclock, hserial, hages⟩, h.threads⟩
  | settle | stir change => exact ⟨⟨hclock, hserial, hages⟩, h.threads⟩

end

/-! ### Everything of one session -/

/-- Whenever the callback `i` answers for a panic, the settings of now in the two runs agree on whether
panics are let out. -/
def PanicsAgree (T T' : Traffic σ) (i : Nat) : Prop :=
  ∀ x ∈ (T.eventsOf i).zip (T'.eventsOf i), x.1.task.isPanic = true →
    x.2.before.config.milter.propagatePanics = x.1.before.config.milter.propagatePanics

/-- The callback `i` has carried out the same tasks in both runs, and stands at `t` in the one and at
`t'` in the other; these are the same unless different settings have let a panic out. -/
structure Together (T T' : Traffic σ) (i : Nat) (t t' : Thread σ) : Prop where
  ended : t' = t ∨ (t.progress.task? = none ∧ t'.progress.task? = none)
  tasks : (T'.eventsOf i).map (·.task) = (T.eventsOf i).map (·.task)
  same : t' = t ↔ T.PanicsAgree T' i

/-- Two runs with the same `Outlines` that have the session `id` in common, with what its callbacks have
done and the records that they have handed over. -/
structure Shares (id : Uuid) (T T' : Traffic σ) : Prop where
  outlines : T.Outlines T'
  sessions : T'.state.sessions.only id = T.state.sessions.only id
  handed : T'.handed id = T.handed id
  callback : ∀ (i : Nat) (t t' : Thread σ), T.threads[i]? = some t → T'.threads[i]? = some t' →
    t.session = some id → T.Together T' i t t'

/-- What every run keeps in which the session `id` has connected. -/
structure Hosts (f : Filter σ) (id : Uuid) (T : Traffic σ) : Prop where
  sound : T.Sound
  traced : T.Traced f
  attested : T.Attested f
  issued : ∃ n < T.state.serial, id = Uuid.issued n

theorem serial_le_of_moved {f : Filter σ} {T T' : Traffic σ} {m : Move σ} (h : Moved f T m T') :
    T.state.serial ≤ T'.state.serial := by
  cases h with
  | connected _ _ _ hserial _ => exact Nat.le.intro hserial.symm
  | taken _ | replied _ | unknown => exact Nat.le_refl _
  | went _ _ _ hstep _ _ _ | answered _ _ hstep _ => exact Nat.le.intro (serial_of_step hstep).symm
  | aside _ _ hserial _ => exact Nat.le_of_eq hserial.symm

theorem Hosts.perform {f : Filter σ} {id : Uuid} {T : Traffic σ} (h : T.Hosts f id) (d : Deed σ) :
    (T.perform f d).Hosts f id := by
  have hmoved := moved_move f h.sound (d.move f T.state)
  obtain ⟨n, hn, rfl⟩ := h.issued
  exact ⟨sound_of_moved h.sound hmoved, traced_of_moved h.traced hmoved,
    attested_of_moved h.attested hmoved,
    ⟨n, Nat.lt_of_lt_of_le hn (serial_le_of_moved hmoved), rfl⟩⟩

section

variable {f : Filter σ} {id : Uuid} {T T' : Traffic σ}

theorem shares_refl (id : Uuid) (T : Traffic σ) : T.Shares id T where
  outlines := ⟨.refl _, rfl⟩
  sessions := rfl
  handed := rfl
  callback := by
    intro i t t' hi hi' _
    rw [hi] at hi'
    obtain rfl := Option.some.inj hi'
    refine ⟨.inl rfl, rfl, fun _ x hx _ => ?_, fun _ => rfl⟩
    obtain ⟨k, hk⟩ := List.getElem?_of_mem hx
    obtain ⟨h₁, h₂⟩ := List.getElem?_zip_eq_some.1 hk
    rw [h₁] at h₂
    rw [Option.some.inj h₂]

/-- `Together` rests on what the callback has done in the two runs, and on nothing else of them. -/
theorem Together.congr {T₁ T₁' : Traffic σ} {i : Nat} {t t' : Thread σ} (h : T.Together T' i t t')
    (hevents : T₁.eventsOf i = T.eventsOf i) (hevents' : T₁'.eventsOf i = T'.eventsOf i) :
    T₁.Together T₁' i t t' where
  ended := h.ended
  tasks := by rw [hevents, hevents', h.tasks]
  same := by rw [h.same, PanicsAgree, PanicsAgree, hevents, hevents']

/-- Something is done to the states alone, and `T'` still `Shares` the session. -/
theorem Shares.withState (h : T.Shares id T') {st st' : FilterState σ} (houtlines : st.Outlines st')
    (hsessions : st'.sessions.only id = st.sessions.only id) :
    ({ T with state := st } : Traffic σ).Shares id { T' with state := st' } where
  outlines := ⟨houtlines, h.outlines.threads⟩
  sessions := hsessions
  handed := h.handed
  callback := fun i t t' hi hi' hid => (h.callback i t t' hi hi' hid).congr rfl rfl

theorem Shares.call (h : T.Shares id T') (hT : T.Hosts f id) (hT' : T'.Hosts f id)
    (session : Option Uuid) (c : Callback) :
    (T.move f (.call session c)).Shares id (T'.move f (.call session c)) where
  outlines := h.outlines.call session c
  sessions := h.sessions
  handed := h.handed
  callback := by
    intro i t t' hi hi' hsession
    have hlength := h.outlines.length
    rcases getElem?_concat_iff.1 hi with hi | ⟨hlast, rfl⟩ <;>
      rcases getElem?_concat_iff.1 hi' with hi' | ⟨hlast', rfl⟩
    · exact (h.callback i t t' hi hi' hsession).congr rfl rfl
    · obtain ⟨hlt, -⟩ := List.getElem?_eq_some_iff.1 hi
      omega
    · obtain ⟨hlt, -⟩ := List.getElem?_eq_some_iff.1 hi'
      omega
    · -- it has just been taken, and nothing in the logs is of it
      have hnone : (T.move f (.call session c)).eventsOf i = [] :=
        hT.traced.eventsOf_eq_nil (List.getElem?_eq_none (Nat.le_of_eq hlast.symm))
      have hnone' : (T'.move f (.call session c)).eventsOf i = [] :=
        hT'.traced.eventsOf_eq_nil (List.getElem?_eq_none (Nat.le_of_eq hlast'.symm))
      rw [h.outlines.state.call_eq]
      refine ⟨.inl rfl, by rw [hnone, hnone'], fun _ x hx => ?_, fun _ => rfl⟩
      rw [hnone] at hx
      cases hx

/-- What a callback of another session does leaves the session `id` as it is, and its callbacks. -/
structure Untouched (id : Uuid) (T T₁ : Traffic σ) : Prop where
  sessions : T₁.state.sessions.only id = T.state.sessions.only id
  handed : T₁.handed id = T.handed id
  thread : ∀ (i : Nat) (t : Thread σ), t.session = some id → T₁.threads[i]? = some t →
    T.threads[i]? = some t ∧ T₁.eventsOf i = T.eventsOf i

theorem untouched_go (hT : T.Sound) {i : Nat} {t : Thread σ} (hi : T.threads[i]? = some t)
    (hne : t.session ≠ some id) : T.Untouched id (T.go f i) := by
  cases ht : t.progress.task? with
  | none =>
    rw [go_of_over (by simp [hi, ht])]
    exact ⟨rfl, rfl, fun _ _ _ hj => ⟨hj, rfl⟩⟩
  | some task =>
    have hsession : task.session? ≠ some id := by
      rw [hT.session i t task hi ht]
      exact hne
    rw [go_of_task hi ht]
    constructor
    · exact (Filter.unmoved_step hsession T.state).sessions
    · rw [handed_extend, if_neg hsession, List.append_nil]
    · intro j u hu hj
      rcases (getElem?_set_iff hi).1 hj with ⟨-, rfl⟩ | ⟨hij, hj⟩
      · exact absurd hu hne
      · exact ⟨hj, by rw [eventsOf_extend, if_neg hij]⟩

/-- A callback of another session makes its move in both runs, and the second still
`Shares` the session. -/
theorem Shares.goOther (h : T.Shares id T') (hT : T.Sound) (hT' : T'.Sound) {i : Nat}
    {t : Thread σ} (hi : T.threads[i]? = some t) (hne : t.session ≠ some id) :
    (T.go f i).Shares id (T'.go f i) := by
  obtain ⟨t', hi', hsession, -⟩ := h.outlines.thread hi
  have houtlines : (T.go f i).Outlines (T'.go f i) := h.outlines.go hT hT' i
  -- the two callbacks need not do the same: neither touches the session
  have huntouched : T.Untouched id (T.go f i) := untouched_go hT hi hne
  have huntouched' : T'.Untouched id (T'.go f i) := untouched_go hT' hi' (hsession ▸ hne)
  constructor
  · exact houtlines
  · rw [huntouched.sessions, huntouched'.sessions, h.sessions]
  · rw [huntouched.handed, huntouched'.handed, h.handed]
  · intro j u u' hj hj' hu
    have hu' : u'.session = some id := by
      obtain ⟨v, hv, hsame, -⟩ := houtlines.thread hj
      obtain rfl := Option.some.inj (hj'.symm.trans hv)
      exact hsame.trans hu
    obtain ⟨hold, hevents⟩ := huntouched.thread j u hu hj
    obtain ⟨hold', hevents'⟩ := huntouched'.thread j u' hu' hj'
    exact (h.callback j u u' hold hold' hu).congr hevents hevents'

/-- The callback `i` carries out `task` in both runs. -/
theorem Together.extend {i : Nat} {t : Thread σ} (h : T.Together T' i t t) {task : Task σ}
    {p p' : Progress σ} {st st' : FilterState σ} {threads threads' : List (Thread σ)}
    (hover : p' = p ∨ (p.task? = none ∧ p'.task? = none))
    (hiff : p' = p ↔ (task.isPanic = true →
      T'.state.config.milter.propagatePanics = T.state.config.milter.propagatePanics)) :
    (T.extend ⟨i, task, T.state, p, st⟩ threads).Together
      (T'.extend ⟨i, task, T'.state, p', st'⟩ threads') i { t with progress := p }
      { t with progress := p' } := by
  have hevents : (T.extend ⟨i, task, T.state, p, st⟩ threads).eventsOf i
      = T.eventsOf i ++ [⟨i, task, T.state, p, st⟩] := by
    rw [eventsOf_extend, if_pos rfl]
  have hevents' : (T'.extend ⟨i, task, T'.state, p', st'⟩ threads').eventsOf i
      = T'.eventsOf i ++ [⟨i, task, T'.state, p', st'⟩] := by
    rw [eventsOf_extend, if_pos rfl]
  -- the events pair off one by one, since the tasks so far are the same
  have hlength : (T.eventsOf i).length = (T'.eventsOf i).length := by
    simpa using (congrArg List.length h.tasks).symm
  constructor
  · exact hover.imp_left fun heq => by rw [heq]
  · rw [hevents, hevents', List.map_append, List.map_append, h.tasks]
    rfl
  · have hbefore : T.PanicsAgree T' i := h.same.1 rfl
    rw [PanicsAgree, hevents, hevents', List.zip_append hlength, List.forall_mem_append]
    simp only [List.zip_cons_cons, List.zip_nil_right, List.forall_mem_singleton]
    rw [← hiff, Thread.mk.injEq, and_iff_right rfl, and_iff_right rfl]
    exact (and_iff_right hbefore).symm

/-- A callback of the session carries out a task in both runs, and the second still `Shares` it. -/
theorem Shares.carryOut (hf : ∀ c ∈ f.registry.enabled, c.Memoryless) (h : T.Shares id T')
    (hT : T.Hosts f id) (hT' : T'.Hosts f id) {i : Nat} {t : Thread σ} {task : Task σ}
    (hi : T.threads[i]? = some t) (hi' : T'.threads[i]? = some t)
    (ht : t.progress.task? = some task) (hid : t.session = some id) :
    (T.go f i).Shares id (T'.go f i) := by
  have hsession : task.session? = some id := (hT.sound.session i t task hi ht).trans hid
  have hunasked := unasked_of_task hT.attested.unasked hi ht
  obtain ⟨hsessions, hhands, hover, hiff⟩ := Filter.shares_step hf h.outlines.state h.sessions
    hsession fun c hc => hf c (hunasked c hc)
  have houtlines : (T.go f i).Outlines (T'.go f i) := h.outlines.go hT.sound hT'.sound i
  refine ⟨houtlines, ?_, ?_, ?_⟩
  all_goals rw [go_of_task hi ht, go_of_task hi' ht]
  · exact hsessions
  · rw [handed_extend, handed_extend, if_pos hsession, if_pos hsession, hhands, h.handed]
  · intro j u u' hj hj' hu
    rcases (getElem?_set_iff hi).1 hj with ⟨rfl, rfl⟩ | ⟨hij, hj⟩ <;>
      rcases (getElem?_set_iff hi').1 hj' with ⟨heq, rfl⟩ | ⟨hij', hj'⟩
    · exact (h.callback i t t hi hi' hid).extend hover hiff
    · exact absurd rfl hij'
    · exact absurd heq hij
    · refine (h.callback j u u' hj hj' hu).congr ?_ ?_
      · rw [eventsOf_extend, if_neg hij]
      · rw [eventsOf_extend, if_neg hij]

/-- A callback makes its move in both runs, and the second still `Shares` the session. -/
theorem Shares.go (hf : ∀ c ∈ f.registry.enabled, c.Memoryless) (h : T.Shares id T')
    (hT : T.Hosts f id) (hT' : T'.Hosts f id) (i : Nat) :
    (T.go f i).Shares id (T'.go f i) := by
  cases hi : T.threads[i]? with
  | none =>
    have hi' := h.outlines.thread_eq_none hi
    rw [go_of_over (by simp [hi]), go_of_over (by simp [hi'])]
    exact h
  | some t =>
    by_cases hid : t.session = some id
    · obtain ⟨t', hi', -, -⟩ := h.outlines.thread hi
      -- where a panic has been answered differently both are over, and neither goes on
      rcases (h.callback i t t' hi hi' hid).ended with rfl | ⟨hover, hover'⟩
      · cases ht : t'.progress.task? with
        | some task => exact h.carryOut hf hT hT' hi hi' ht hid
        | none =>
          rw [go_of_over (by simp [hi, ht]), go_of_over (by simp [hi', ht])]
          exact h
      · rw [go_of_over (by simp [hi, hover]), go_of_over (by simp [hi', hover'])]
        exact h
    · exact h.goOther hT.sound hT'.sound hi hid

/-- New settings by `overrideConfig` for one session, in both runs. -/
theorem Shares.overrideConfig (h : T.Shares id T') (i : Uuid) (config : Config) :
    (T'.state.overrideConfig i config).sessions.only id
      = (T.state.overrideConfig i config).sessions.only id := by
  by_cases hid : i = id
  · subst hid
    have hfind : T'.state.sessions.find? i = T.state.sessions.find? i := by
      rw [← SessionTable.find?_only, h.sessions, SessionTable.find?_only]
    unfold FilterState.overrideConfig
    rw [hfind]
    cases T.state.sessions.find? i with
    | none => exact h.sessions
    | some s =>
      show (T'.state.sessions.update _).only i = (T.state.sessions.update _).only i
      rw [SessionTable.only_update, SessionTable.only_update, h.sessions]
  · rw [(Filter.unmoved_overrideConfig hid config T'.state).sessions,
      (Filter.unmoved_overrideConfig hid config T.state).sessions, h.sessions]

/-- What is done in both runs keeps the session `id` in common, whatever settings the sessions get that
connect. -/
theorem shares_perform (hf : ∀ c ∈ f.registry.enabled, c.Memoryless) (h : T.Shares id T')
    (hT : T.Hosts f id) (hT' : T'.Hosts f id) {d : Deed σ} (hd : d.replaces = false) :
    (T.perform f d).Shares id (T'.perform f d) := by
  have houtlines : (T.perform f d).Outlines (T'.perform f d) :=
    outlines_perform h.outlines hT.sound hT'.sound hd
  cases d with
  | connect ip port reverseDns =>
    -- whoever connects gets an identifier that the session does not have
    have hother : ∀ st : FilterState σ, (∃ n < st.serial, id = Uuid.issued n) →
        (st.connect ip port reverseDns).2.sessions.only id = st.sessions.only id :=
      fun st hissued => SessionTable.only_insert_other _ (Uuid.ne_issued hissued).symm
    refine h.withState houtlines.state ?_
    exact (hother T'.state hT'.issued).trans (h.sessions.trans (hother T.state hT.issued).symm)
  | call session c => exact h.call hT hT' session c
  | go i => exact h.go hf hT hT' i
  | prune now =>
    refine h.withState houtlines.state ?_
    show (T'.state.prune f now).2.sessions.only id = (T.state.prune f now).2.sessions.only id
    rw [(Filter.prune_keeps f now T.state).1, (Filter.prune_keeps f now T'.state).1,
      SessionTable.removeExpired, SessionTable.removeExpired, SessionTable.only_removeWhere,
      SessionTable.only_removeWhere, h.sessions]
  | overrideConfig i config => exact h.withState houtlines.state (h.overrideConfig i config)
  | replaceConfig config => cases hd
  | elapse nanos | settle | stir change => exact h.withState houtlines.state h.sessions

theorem shares_run (hf : ∀ c ∈ f.registry.enabled, c.Memoryless) {ds ds' : List (Deed σ)}
    (h : T.Shares id T') (hT : T.Hosts f id) (hT' : T'.Hosts f id) (hds : Alongside ds ds') :
    (T.performAll f ds).Shares id (T'.performAll f ds') := by
  induction hds generalizing T T' with
  | nil => exact h
  | @left config ds ds' _ ih =>
    obtain ⟨hclock, hserial, hages⟩ := h.outlines.state
    refine ih ?_ (hT.perform (.replaceConfig config)) hT'
    exact h.withState ⟨hclock, hserial, hages⟩ h.sessions
  | @right config ds ds' _ ih =>
    obtain ⟨hclock, hserial, hages⟩ := h.outlines.state
    refine ih ?_ hT (hT'.perform (.replaceConfig config))
    exact h.withState ⟨hclock, hserial, hages⟩ h.sessions
  | @both d ds ds' hd _ ih => exact ih (shares_perform hf h hT hT' hd) (hT.perform d) (hT'.perform d)

/-- Everything that `performAll` does to a filter from the start on is traffic. -/
theorem performAll_eq_run (f : Filter σ) (T : Traffic σ) (ds : List (Deed σ)) :
    ∃ moves, T.performAll f ds = T.run f moves := by
  induction ds generalizing T with
  | nil => exact ⟨[], rfl⟩
  | cons d rest ih =>
    obtain ⟨moves, hmoves⟩ := ih (T.perform f d)
    exact ⟨d.move f T.state :: moves, hmoves⟩

end

/-- **A session keeps its settings whatever the others get.** Two runs that differ in replacements of the
settings of now only leave a session the same that has connected before they part, and so do the callbacks
of the session: they carry out the same tasks, hand over the same records, and are answered alike just if
the settings of now agree whenever one is answered for a panic. Other sessions may connect with other
settings meanwhile; what checkers find must not depend on what they remember of those. -/
theorem settings_kept_alone (f : Filter σ) (hf : ∀ c ∈ f.registry.enabled, c.Memoryless)
    (st : FilterState σ) (before ds ds' : List (Deed σ)) {T₀ T T' : Traffic σ}
    (h₀ : T₀ = (start st).performAll f before) (hT : T = T₀.performAll f ds)
    (hT' : T' = T₀.performAll f ds')
    (hsame : ds.filter (!·.replaces) = ds'.filter (!·.replaces)) {id : Uuid}
    (hid : id ∈ T₀.state.sessions.ids) :
    T'.state.sessions.only id = T.state.sessions.only id ∧ T'.handed id = T.handed id ∧
      ∀ i t, T.threads[i]? = some t → t.session = some id →
        (T'.eventsOf i).map (·.task) = (T.eventsOf i).map (·.task) ∧
          (T'.threads[i]? = some t ↔ T.PanicsAgree T' i) := by
  have hhosts : T₀.Hosts f id := by
    obtain ⟨moves, hmoves⟩ := performAll_eq_run f (start st) before
    obtain rfl := h₀.trans hmoves
    have hsound : ((start st).run f moves).Sound := sound_run f (sound_start st) moves
    exact ⟨hsound, traced_run f st moves, attested_run f st moves, hsound.issued id hid⟩
  have hshares : T.Shares id T' := by
    rw [hT, hT']
    exact shares_run hf (shares_refl id T₀) hhosts hhosts (alongside_of_filter_eq hsame)
  refine ⟨hshares.sessions, hshares.handed, fun i t hi hsession => ?_⟩
  obtain ⟨t', hi', -, -⟩ := hshares.outlines.thread hi
  obtain ⟨-, htasks, hagree⟩ := hshares.callback i t t' hi hi' hsession
  refine ⟨htasks, ?_⟩
  rw [hi', Option.some.injEq]
  exact hagree

/-- A client connects, which is on the allow list of `lenient` only. -/
def newcomer : Deed Unit :=
  .connect (some (.v4 0x0A010203)) none none

/-- The client that has connected after the settings were replaced, the `newcomer`, has the new ones, and
the client that was there is answered for its recipient as it would have been without them. -/
theorem settings_kept_alone_newcomer :
    let T₀ := (start (.blank {})).performAll frail sender
    let T := T₀.performAll frail (newcomer :: recipientNamed)
    let T' := T₀.performAll frail (.replaceConfig lenient.config :: newcomer :: recipientNamed)
    T.state.sessions.live.map (·.isAllowListed) = [false, false] ∧
      T'.state.sessions.live.map (·.isAllowListed) = [false, true] ∧
      T'.threads[1]? = T.threads[1]? := by
  intro T₀ T T'
  have hmemoryless : ∀ c ∈ frail.registry.enabled, c.Memoryless := by
    intro c hc
    obtain rfl := List.mem_singleton.1 hc
    exact ⟨fun _ _ _ _ => rfl, fun _ _ _ _ => rfl⟩
  have hid : Uuid.issued 0 ∈ T₀.state.sessions.ids := by decide +kernel
  have hT : T.threads[1]? = some ⟨some (Uuid.issued 0), .envRcpt ["<b@example.com>"],
      .replied (.tempfail Reply.localErrorText)⟩ := by with_unfolding_all rfl
  have hpanics : T.PanicsAgree T' 1 := by
    unfold PanicsAgree
    decide +kernel
  obtain ⟨-, -, hcallbacks⟩ := settings_kept_alone frail hmemoryless (.blank {}) sender
    (newcomer :: recipientNamed) (.replaceConfig lenient.config :: newcomer :: recipientNamed)
    rfl rfl rfl rfl hid
  refine ⟨by decide +kernel, by decide +kernel, ?_⟩
  rw [hT]
  exact (hcallbacks 1 _ hT rfl).2.2 hpanics

end Traffic

end MailFilter
