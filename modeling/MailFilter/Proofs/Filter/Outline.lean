/-
Which sessions a filter has, apart from what is in them.

The time `SessionTable.age? t id` is when the session `id` connected, if it can be found in `t`. A
callback looks for its session, and a sweep gives sessions up, by that alone: the messages of a session
and its settings have no say. Two states have the same `FilterState.Outlines` if they agree in it, in the
clock, and in how many identifiers have been given out.

* `age?_step`: the task that ends a connection removes its session, and no other task removes any;
* `Outlines.step`, `outlines_step`: a task that is carried out in both states keeps their outlines the
  same, and one that is not the first of its callback can be carried out in one of them alone.
-/
import MailFilter.Proofs.Filter.Settings
import MailFilter.Proofs.Traffic.Filing

namespace MailFilter

variable {σ : Type}

/-! ### When sessions connected -/

/-- No callback changes when its session connected, as its `Callback.Effect` shows. -/
theorem Callback.Effect.connectedAt_eq {c : Callback} {message : Uuid} {now : Timestamp}
    {s s' : Session} {result : Except Failure Unit} (h : c.Effect message now s result s') :
    s'.connectedAt = s.connectedAt := by
  cases h with
  | abandoned _ =>
    unfold Session.abort
    cases s.current? <;> rfl
  | refused _ _ | greeted _ _ | begun _ _ | missed _ _ _ | touched _ _ _ _ _ => rfl

theorem Task.Outcome.connectedAt_eq {f : Filter σ} {st : FilterState σ} {id : Uuid}
    {s s' : Session} {task : Task σ} {p : Progress σ} (h : task.Outcome f st id s p s') :
    s'.connectedAt = s.connectedAt := by
  cases h with
  | failed _ he | followed _ he => exact he.connectedAt_eq
  | _ => rfl

namespace SessionTable

variable {t t' : SessionTable}

/-- When the session `id` connected, if `find?` finds it. -/
def age? (t : SessionTable) (id : Uuid) : Option Timestamp :=
  (t.find? id).map (·.connectedAt)

/-- What `find?` finds is what `held?` holds, except for the sessions that are `gone`. -/
theorem find?_eq_ite (hd : t.Distinct) (id : Uuid) :
    t.find? id = if id ∈ t.gone then none else t.held? id := by
  by_cases hgone : id ∈ t.gone
  · rw [if_pos hgone]
    exact ((mem_gone_iff hd).1 hgone).2
  · rw [if_neg hgone]
    cases hf : t.find? id with
    | some s => exact (held?_of_find? hd hf).symm
    | none =>
      refine (held?_eq_none.2 fun hmem => hgone ?_).symm
      exact (mem_gone_iff hd).2 ⟨hmem, hf⟩

theorem age?_congr (hd : t.Distinct) (hd' : t'.Distinct) {id : Uuid}
    (hgone : id ∈ t'.gone ↔ id ∈ t.gone)
    (hheld : (t'.held? id).map (·.connectedAt) = (t.held? id).map (·.connectedAt)) :
    t'.age? id = t.age? id := by
  rw [age?, age?, find?_eq_ite hd, find?_eq_ite hd']
  by_cases hmem : id ∈ t.gone
  · rw [if_pos hmem, if_pos (hgone.2 hmem)]
  · rw [if_neg hmem, if_neg fun h => hmem (hgone.1 h)]
    exact hheld

theorem age?_insert (t : SessionTable) (s : Session) (id : Uuid) :
    (t.insert s).age? id = (t.age? id).or (if s.id = id then some s.connectedAt else none) := by
  have hlive : (t.insert s).live = t.live ++ [s] := by
    simp [live, insert, List.filter_append]
  rw [age?, find?, hlive, List.find?_append, Option.map_or, age?, find?]
  by_cases hid : s.id = id <;> simp [hid]

theorem age?_update (hd : t.Distinct) {s s' : Session} (hs : t.held? s'.id = some s)
    (hage : s'.connectedAt = s.connectedAt) (id : Uuid) : (t.update s').age? id = t.age? id := by
  rw [age?, age?, find?_update]
  split
  · next hid =>
    cases hf : t.find? id with
    | none => rfl
    | some x =>
      have hx := held?_of_find? hd hf
      rw [← hid, hs] at hx
      rw [← Option.some.inj hx]
      exact congrArg some hage
  · rfl

/-- The session `id` is removed, and the others can be found as before. -/
theorem age?_remove (t : SessionTable) (id id' : Uuid) :
    (t.remove id).2.age? id' = if id = id' then none else t.age? id' := by
  rw [age?, find?, remove, live_removeWhere, List.find?_filter]
  split
  · next hid =>
    subst hid
    simp
  · next hne =>
    refine congrArg (Option.map _) (congrArg (t.live.find? ·) (funext fun s => ?_))
    by_cases hs : s.id = id'
    · simp [hs, Ne.symm hne]
    · simp [hs]

/-- A sweep goes by the age of a session. -/
theorem age?_removeExpired (hd : t.Distinct) (maxAgeSecs : Nat) (now : Timestamp) (id : Uuid) :
    (t.removeExpired maxAgeSecs now).2.age? id
      = (t.age? id).filter fun time => !decide (maxAgeSecs * Timestamp.second < now.since time) := by
  have hfound (s : Session) : (t.removeExpired maxAgeSecs now).2.find? id = some s ↔
      t.find? id = some s ∧ isExpired maxAgeSecs now s = false :=
    find?_removeWhere_iff hd _
  have hafter : (t.removeExpired maxAgeSecs now).2.find? id
      = (t.find? id).filter fun s => !isExpired maxAgeSecs now s := by
    refine Option.ext fun s => ?_
    rw [hfound, Option.filter_eq_some_iff, Bool.not_eq_true']
  rw [age?, hafter, age?]
  cases t.find? id with
  | none => rfl
  | some s =>
    show Option.map _ (Option.filter _ (some s)) = Option.filter _ (some s.connectedAt)
    rw [Option.filter_some, Option.filter_some]
    show Option.map _ (if !isExpired maxAgeSecs now s then some s else none)
      = if !isExpired maxAgeSecs now s then some s.connectedAt else none
    split <;> rfl

end SessionTable

/-! ### After a task -/

/-- The session that a task removes. -/
def Task.ends? : Task σ → Option Uuid
  | called id .close => some id
  | _ => none

/-- The call that a task begins. -/
def Task.called? : Task σ → Option (Uuid × Callback)
  | called id c => some (id, c)
  | _ => none

theorem Task.ends?_of_called? {task : Task σ} (h : task.called? = none) : task.ends? = none := by
  cases task with
  | called id c => cases h
  | _ => rfl

theorem Task.identifiers_of_called? {task : Task σ} (h : task.called? = none) :
    task.identifiers = 0 := by
  cases task with
  | called id c => cases h
  | _ => rfl

/-- A task holds a session of the table `t`, unless it only answers for work that has been cut short. -/
def Task.Holds (t : SessionTable) (task : Task σ) : Prop :=
  (∃ id ∈ t.ids, task.session? = some id) ∨
    ∃ stage session reason, task = .interrupted stage session reason

namespace Filter

variable {f : Filter σ} {st : FilterState σ} {task : Task σ}

theorem clock_locked {β : Type} (id : Uuid) (stage : Stage) (change : Change Session β)
    (next : β → Progress σ) (st : FilterState σ) :
    (locked id stage change next st).2.clock = st.clock := by
  unfold locked changeHeld
  cases st.sessions.held? id with
  | none => rfl
  | some s =>
    dsimp only
    rcases change s with ⟨_ | _, s'⟩ <;> rfl

theorem clock_answerFailure (stage : Stage) (id : Option Uuid) (e : Failure) (st : FilterState σ) :
    (answerFailure stage id e st).2.clock = st.clock := by
  unfold answerFailure
  dsimp only
  split
  · split <;> rfl
  · rfl

/-- Tasks take no time of their own. -/
theorem clock_step (f : Filter σ) (st : FilterState σ) (task : Task σ) :
    (step f st task).2.clock = st.clock := by
  cases task with
  | called id c =>
    by_cases hc : c = .close
    · subst hc
      exact (leave_surroundings f id st).2
    · show (act f id c st).2.clock = _
      rw [act_eq f id hc]
      exact clock_locked ..
  | asking id connection recipient | gating id connection recipient outcome deferred rest =>
    simp only [step, gateOn]
    split <;> rfl
  | gated id connection recipient answer =>
    simp only [step, gated]
    split
    · exact clock_locked ..
    · rfl
  | complete id config ctx =>
    simp only [step, judge, judgeOn, receiveUntil]
    split <;> rfl
  | judging id config ctx j =>
    simp only [step, judgeOn, receiveUntil]
    split <;> rfl
  | ruled r => exact clock_locked ..
  | concluded r record | told r record => rfl
  | interrupted stage id reason =>
    cases reason with
    | failure e => exact clock_answerFailure ..
    | panic p =>
      simp only [step, answerInterruption]
      split
      · rfl
      · exact clock_answerFailure ..

/-- A task works on a session that is held, or it is answered and leaves the table as it is. -/
theorem held_or_stays (f : Filter σ) (hd : st.sessions.Distinct) (hholds : task.Holds st.sessions) :
    (∃ id s, task.session? = some id ∧ st.sessions.held? id = some s) ∨
      (step f st task).2.sessions = st.sessions := by
  rcases hholds with ⟨id, hmem, hid⟩ | ⟨stage, session, reason, rfl⟩
  · obtain ⟨s, hs⟩ := SessionTable.exists_held?_of_mem hmem
    exact .inl ⟨id, s, hid, hs⟩
  · cases hfind : session.bind st.sessions.find? with
    | some s =>
      obtain ⟨id, hid, hf⟩ := Option.bind_eq_some_iff.1 hfind
      exact .inl ⟨id, s, hid, SessionTable.held?_of_find? hd hf⟩
    | none =>
      obtain ⟨outcome, -, hsessions⟩ := Traffic.answered_step f hfind stage reason
      exact .inr hsessions

theorem distinct_step (f : Filter σ) (hd : st.sessions.Distinct)
    (hholds : task.Holds st.sessions) : (step f st task).2.sessions.Distinct := by
  rcases held_or_stays f hd hholds with ⟨id, s, hid, hs⟩ | hstays
  · obtain ⟨s', -, hsessions⟩ := outcome_step f hd hid hs
    rw [SessionTable.Distinct, hsessions.ids]
    exact hd
  · rwa [hstays]

/-- No task changes when the sessions that are held connected. -/
theorem held?_connectedAt_step (f : Filter σ) (hd : st.sessions.Distinct)
    (hholds : task.Holds st.sessions) (id : Uuid) :
    ((step f st task).2.sessions.held? id).map (·.connectedAt)
      = (st.sessions.held? id).map (·.connectedAt) := by
  rcases held_or_stays f hd hholds with ⟨i, s, hi, hs⟩ | hstays
  · obtain ⟨s', ho, hsessions⟩ := outcome_step f hd hi hs
    rw [Traffic.held?_of_outcome hs ho hsessions]
    split
    · next hid =>
      rw [← hid, hs]
      exact congrArg some ho.connectedAt_eq
    · rfl
  · rw [hstays]

/-- **A task removes the session whose connection it ends, and no other.** -/
theorem age?_step (hd : st.sessions.Distinct) (hholds : task.Holds st.sessions) (id : Uuid) :
    (step f st task).2.sessions.age? id
      = if task.ends? = some id then none else st.sessions.age? id := by
  have hstays : task.ends? = none → (task.hands st).filterMap Record.session? = [] →
      (step f st task).2.sessions.age? id
        = if task.ends? = some id then none else st.sessions.age? id := by
    intro hends hhands
    have hgone := (gone_step f st task).mem_iff (a := id)
    rw [hhands, List.map_nil, List.append_nil] at hgone
    rw [hends, if_neg (by rintro ⟨⟩)]
    exact SessionTable.age?_congr hd (distinct_step f hd hholds) hgone
      (held?_connectedAt_step f hd hholds id)
  cases task with
  | called i c =>
    by_cases hc : c = .close
    · subst hc
      show (st.leave f i).sessions.age? id = _
      rw [(leave_keeps f i st).1, SessionTable.age?_remove]
      simp [Task.ends?]
    · refine hstays ?_ ?_ <;> cases c <;> first | rfl | exact absurd rfl hc
  | _ => exact hstays rfl rfl

end Filter

/-! ### After the first task of a callback -/

/-- The call that a callback has still to begin. -/
def Progress.called? (p : Progress σ) : Option (Uuid × Callback) :=
  p.task?.bind Task.called?

namespace Filter

theorem called?_locked {β : Type} {next : β → Progress σ} (hnext : ∀ b, (next b).called? = none)
    (id : Uuid) (stage : Stage) (change : Change Session β) (st : FilterState σ) :
    (locked id stage change next st).1.called? = none := by
  unfold locked
  split
  · exact hnext _
  · rfl

theorem called?_follow (s : Session) (c : Callback) : (follow s c : Progress σ).called? = none := by
  unfold follow
  split
  · rfl
  · split <;> rfl
  · rfl

theorem called?_gateOn (id : Uuid) (connection : Connection) (recipient : Address)
    (gating : Registry.Gating σ × σ) (st : FilterState σ) :
    (gateOn id connection recipient gating st).1.called? = none := by
  unfold gateOn
  split <;> rfl

theorem called?_judgeOn (id : Uuid) (config : Config) (ctx : CheckContext) (j : Judging σ)
    (st : FilterState σ) : (judgeOn id config ctx j st).1.called? = none := by
  unfold judgeOn
  split <;> rfl

/-- No task of `Filter.step` leads to a call: a call is begun when the callback is taken. -/
theorem called?_step (f : Filter σ) (st : FilterState σ) (task : Task σ) :
    (step f st task).1.called? = none := by
  cases task with
  | called id c =>
    show (act f id c st).1.called? = none
    by_cases hc : c = .close
    · subst hc
      rfl
    · rw [act_eq f id hc]
      exact called?_locked (fun s => called?_follow s c) ..
  | asking id connection recipient | gating id connection recipient outcome deferred rest =>
    exact called?_gateOn ..
  | gated id connection recipient answer =>
    unfold step gated
    dsimp only
    split
    · exact called?_locked (fun _ => rfl) ..
    · rfl
  | complete id config ctx | judging id config ctx j => exact called?_judgeOn ..
  | ruled r => exact called?_locked (fun _ => rfl) ..
  | concluded r record | told r record => rfl
  | interrupted stage session reason =>
    obtain ⟨outcome, hdone⟩ := done_of_answerInterruption stage session st reason
    rw [step, hdone]
    rfl

end Filter

/-! ### The same sessions -/

/-- The states agree in the clock, in how many identifiers have been given out, and in which sessions can
be found and when they connected. -/
structure FilterState.Outlines (st st' : FilterState σ) : Prop where
  clock : st'.clock = st.clock
  serial : st'.serial = st.serial
  age? : ∀ id, st'.sessions.age? id = st.sessions.age? id

namespace FilterState.Outlines

variable {f : Filter σ} {st st₁ st' : FilterState σ}

theorem refl (st : FilterState σ) : st.Outlines st := ⟨rfl, rfl, fun _ => rfl⟩

theorem symm (h : st.Outlines st') : st'.Outlines st :=
  ⟨h.clock.symm, h.serial.symm, fun id => (h.age? id).symm⟩

theorem trans (h : st.Outlines st₁) (h' : st₁.Outlines st') : st.Outlines st' :=
  ⟨h'.clock.trans h.clock, h'.serial.trans h.serial, fun id => (h'.age? id).trans (h.age? id)⟩

/-- A callback that is taken finds its session in both states, or in neither. -/
theorem call_eq (h : st.Outlines st') (session : Option Uuid) (c : Callback) :
    Filter.call session c st' = Filter.call session c st := by
  cases session with
  | none => rfl
  | some id =>
    have hage := h.age? id
    unfold SessionTable.age? at hage
    unfold Filter.call
    rw [Option.bind_some, Option.bind_some]
    cases hs : st.sessions.find? id with
    | none =>
      rw [hs, Option.map_none, Option.map_eq_none_iff] at hage
      rw [hage]
    | some s =>
      obtain ⟨s', hs', -⟩ := Option.map_eq_some_iff.1 (hage.trans (congrArg _ hs))
      have hid : s.id = id := by simpa using List.find?_some hs
      have hid' : s'.id = id := by simpa using List.find?_some hs'
      rw [hs']
      -- what the callback goes on with names its session by the identifier alone
      cases c with
      | envRcpt args => cases args <;> simp only [hid, hid']
      | _ => simp only [hid, hid']

theorem connect (h : st.Outlines st') (ip : Option Ip) (port : Option Nat)
    (reverseDns : Option String) :
    (st.connect ip port reverseDns).2.Outlines (st'.connect ip port reverseDns).2 where
  clock := h.clock
  serial := congrArg (· + 1) h.serial
  age? := by
    intro id
    show (st'.sessions.insert (Session.new (Uuid.issued st'.serial) ..)).age? id
      = (st.sessions.insert (Session.new (Uuid.issued st.serial) ..)).age? id
    rw [SessionTable.age?_insert, SessionTable.age?_insert, h.age?, h.serial]
    show Option.or _ (if _ then some st'.clock else none) = Option.or _ (if _ then some st.clock else none)
    rw [h.clock]
    rfl

theorem prune (h : st.Outlines st') (hd : st.sessions.Distinct) (hd' : st'.sessions.Distinct)
    (f : Filter σ) (now : Timestamp) : (st.prune f now).2.Outlines (st'.prune f now).2 where
  clock := by
    have hevict : ∀ (st : FilterState σ) (s : Session), (st.evict f s).clock = st.clock :=
      fun _ _ => rfl
    have hkept : ∀ st : FilterState σ, (st.prune f now).2.clock = st.clock := fun st =>
      Filter.foldl_keeps FilterState.clock hevict _ _
    rw [hkept, hkept, h.clock]
  serial := by
    rw [(Filter.prune_keeps f now st).2, (Filter.prune_keeps f now st').2, h.serial]
  age? := by
    intro id
    rw [(Filter.prune_keeps f now st).1, (Filter.prune_keeps f now st').1,
      SessionTable.age?_removeExpired hd, SessionTable.age?_removeExpired hd', h.age?]

/-- New settings for a session are not seen from the outside. -/
theorem overrideConfig (hd : st.sessions.Distinct) (id : Uuid) (config : Config) :
    st.Outlines (st.overrideConfig id config) := by
  unfold FilterState.overrideConfig
  cases hf : st.sessions.find? id with
  | none => exact .refl st
  | some s =>
    have hs := SessionTable.held?_of_find? hd hf
    have hid : s.id = id := SessionTable.id_of_held? hs
    have hs' : st.sessions.held? (s.overrideConfig config).id = some s := hid ▸ hs
    exact ⟨rfl, rfl, SessionTable.age?_update hd hs' rfl⟩

/-- The same task keeps the outlines the same. -/
theorem step (h : st.Outlines st') {task : Task σ} (hd : st.sessions.Distinct)
    (hd' : st'.sessions.Distinct) (hholds : task.Holds st.sessions)
    (hholds' : task.Holds st'.sessions) :
    (f.step st task).2.Outlines (f.step st' task).2 where
  clock := by rw [Filter.clock_step, Filter.clock_step, h.clock]
  serial := by rw [Filter.serial_step, Filter.serial_step, h.serial]
  age? := by
    intro id
    rw [Filter.age?_step hd hholds, Filter.age?_step hd' hholds', h.age?]

end FilterState.Outlines

/-- A task that begins no call is not seen from the outside. -/
theorem Filter.outlines_step {f : Filter σ} {st : FilterState σ} {task : Task σ}
    (hd : st.sessions.Distinct) (hholds : task.Holds st.sessions) (hcalled : task.called? = none) :
    st.Outlines (f.step st task).2 where
  clock := clock_step f st task
  serial := by rw [serial_step, Task.identifiers_of_called? hcalled, Nat.add_zero]
  age? := by
    intro id
    rw [age?_step hd hholds, Task.ends?_of_called? hcalled, if_neg (by rintro ⟨⟩)]

end MailFilter
