/-
What a verdict is the verdict of.

Once the checks of a message have been started, nothing that goes on meanwhile has a say in what they
come to. So a verdict that is recorded is what the enabled checkers made of the message in the state in
which it was complete; and while a callback waits, it waits for checkers of the filter and no others.

* `heeds_step`: a task goes on with what it has got from the checkers;
* `attested_run`: for every verdict that the modules are told there is the event with which its checks
  have been started;
* `nodup_told`: no message is told about twice;
* `Reaches.tells`: a message whose checks take no time is told about if it is left to itself.
-/
import MailFilter.Proofs.Filter.Books
import MailFilter.Proofs.Traffic.Race
import MailFilter.Proofs.Traffic.Records
import MailFilter.Proofs.Traffic.Run
import MailFilter.Proofs.Traffic.Settings

namespace MailFilter

variable {σ : Type}

/-! ### What a task has from the checkers -/

/-- The verdict of the ruling `r` is what the checkers have come to, by `verdictAt`, in the state in
which its message was complete. -/
def Ruling.IsJudged (f : Filter σ) (log : List (Traffic.Event σ)) (r : Ruling) : Prop :=
  ∃ e ∈ log, e.task = .complete r.session r.config r.ctx ∧
    r.verdict = (f.verdictAt e.before r.config r.ctx).effective r.ctx.connection.allowListed

/-- What is judged has been complete, by the `log`, and its verdict is that of the checkers of `f`. -/
def Task.Heeds (f : Filter σ) (log : List (Traffic.Event σ)) : Task σ → Prop
  | judging id config ctx j => j.Employs f.registry ∧ ∃ e ∈ log,
    e.task = .complete id config ctx ∧ j.Settles (f.verdictAt e.before config ctx)
  | ruled r | concluded r _ => r.IsJudged f log
  | _ => True

/-- More events do no harm: a ruling that `IsJudged` stays so. -/
theorem Ruling.IsJudged.mono {f : Filter σ} {log log' : List (Traffic.Event σ)} {r : Ruling}
    (h : r.IsJudged f log) (hlog : log ⊆ log') : r.IsJudged f log' := by
  obtain ⟨e, he, htask, hv⟩ := h
  exact ⟨e, hlog he, htask, hv⟩

theorem Task.Heeds.mono {f : Filter σ} {log log' : List (Traffic.Event σ)} {task : Task σ}
    (h : task.Heeds f log) (hlog : log ⊆ log') : task.Heeds f log' := by
  cases task with
  | judging id config ctx j =>
    obtain ⟨hemploys, e, he, htask, hj⟩ := h
    exact ⟨hemploys, e, hlog he, htask, hj⟩
  | ruled r | concluded r record => exact Ruling.IsJudged.mono h hlog
  | _ => trivial

namespace Filter

variable {f : Filter σ} {st : FilterState σ} {log : List (Traffic.Event σ)}

/-- Work that is `locked` goes on, or it has failed. -/
theorem heeds_locked {β : Type} {next : β → Progress σ}
    (hnext : ∀ b task, (next b).task? = some task → task.Heeds f log) (id : Uuid) (stage : Stage)
    (change : Change Session β) (st : FilterState σ) {task : Task σ}
    (ht : (locked id stage change next st).1.task? = some task) : task.Heeds f log := by
  unfold locked at ht
  split at ht
  · exact hnext _ _ ht
  · cases ht
    trivial

theorem heeds_follow (s : Session) (c : Callback) {task : Task σ}
    (ht : (follow s c).task? = some task) : task.Heeds f log := by
  unfold follow at ht
  split at ht
  · cases ht
    trivial
  · split at ht <;> cases ht <;> trivial
  · cases ht

theorem heeds_gateOn (id : Uuid) (connection : Connection) (recipient : Address)
    (gating : Registry.Gating σ × σ) (st : FilterState σ) {task : Task σ}
    (ht : (gateOn id connection recipient gating st).1.task? = some task) : task.Heeds f log := by
  unfold gateOn at ht
  split at ht <;> cases ht <;> trivial

/-- Judging goes on, or comes to the verdict on which it has been bound to settle: what follows `judgeOn`
is a task that `Heeds` the checkers. -/
theorem heeds_judgeOn {id : Uuid} {config : Config} {ctx : CheckContext} {j : Judging σ}
    (h : (Task.judging id config ctx j).Heeds f log) (st : FilterState σ) {task : Task σ}
    (ht : (judgeOn id config ctx j st).1.task? = some task) : task.Heeds f log := by
  cases hw : j.waitMs? with
  | some ms =>
    rw [judgeOn, hw] at ht
    cases ht
    exact h
  | none =>
    obtain ⟨-, e, he, htask, hj⟩ := h
    rw [judgeOn_of_settled hj hw] at ht
    cases ht
    exact ⟨e, he, htask, rfl⟩

theorem heeds_receiveUntil {id : Uuid} {config : Config} {ctx : CheckContext} {j : Judging σ}
    (h : (Task.judging id config ctx j).Heeds f log) (ms : Nat) (st : FilterState σ) :
    (Task.judging id config ctx (receiveUntil ms j st).1).Heeds f log := by
  obtain ⟨hemploys, e, he, htask, hj⟩ := h
  exact ⟨hemploys.receiveWhile _ _ _, e, he, htask, hj.receiveWhile _ _ _⟩

/-- A task that `Heeds` the checkers goes on with what it has got from them, and with what it gets from
them itself. -/
theorem heeds_step {i : Nat} {current task : Task σ} {before after : FilterState σ}
    {result : Progress σ} (hstep : f.step before current = (result, after))
    (h : current.Heeds f log) (ht : result.task? = some task) :
    task.Heeds f (log ++ [⟨i, current, before, result, after⟩]) := by
  have h' := h.mono (List.subset_append_left log [⟨i, current, before, result, after⟩])
  obtain rfl : (f.step before current).1 = result := congrArg Prod.fst hstep
  cases current with
  | called id c =>
    have hact : (act f id c before).1.task? = some task := ht
    by_cases hc : c = .close
    · subst hc
      cases hact
    · rw [act_eq f id hc] at hact
      exact heeds_locked (fun s _ => heeds_follow s c) _ _ _ _ hact
  | asking id connection recipient | gating id connection recipient outcome deferred rest =>
    exact heeds_gateOn _ _ _ _ _ ht
  | gated id connection recipient answer =>
    simp only [step, gated] at ht
    split at ht
    · exact heeds_locked (fun _ _ hnext => by cases hnext) _ _ _ _ ht
    · cases ht
  | complete id config ctx =>
    have hcomplete : (judge f id config ctx before).1.task? = some task := ht
    rw [judge_eq] at hcomplete
    -- the new event is the one in which the message was complete
    refine heeds_judgeOn (heeds_receiveUntil ?_ _ _) _ hcomplete
    exact ⟨Judging.employs_start _ _ _ _ _, _, List.mem_concat_self, rfl, settles_judgingAt _ _ _ _⟩
  | judging id config ctx j => exact heeds_judgeOn (heeds_receiveUntil h' _ _) _ ht
  | ruled r =>
    refine heeds_locked (fun record next hnext => ?_) _ _ _ _ ht
    cases hnext
    exact h'
  | concluded r record =>
    cases ht
    trivial
  | told r record => cases ht
  | interrupted stage session reason =>
    obtain ⟨outcome, hdone⟩ := done_of_answerInterruption stage session before reason
    rw [show f.step before (.interrupted stage session reason)
      = answerInterruption stage session before reason from rfl, hdone] at ht
    cases ht

end Filter

/-! ### What a callback tells -/

/-- Elements that are listed by values without repetitions are the same if their values are. -/
theorem eq_of_nodup_filterMap {α β γ : Type} {g : α → Option β} {k : β → γ} {l : List α}
    (h : ((l.filterMap g).map k).Nodup) {a a' : α} {b b' : β} (ha : a ∈ l) (ha' : a' ∈ l)
    (hb : g a = some b) (hb' : g a' = some b') (hk : k b = k b') : a = a' := by
  induction l with
  | nil => cases ha
  | cons x rest ih =>
    have hrest : ((rest.filterMap g).map k).Nodup :=
      h.sublist (((List.sublist_cons_self x rest).filterMap g).map k)
    -- the first of the list has no value in common with the rest
    have hne : ∀ a₁ ∈ rest, ∀ b₀ b₁, g x = some b₀ → g a₁ = some b₁ → k b₀ ≠ k b₁ := by
      intro a₁ ha₁ b₀ b₁ h₀ h₁ heq
      rw [List.filterMap_cons_some h₀, List.map_cons, List.nodup_cons] at h
      exact h.1 (heq ▸ List.mem_map_of_mem (List.mem_filterMap.2 ⟨a₁, ha₁, h₁⟩))
    rw [List.mem_cons] at ha ha'
    rcases ha with rfl | ha <;> rcases ha' with rfl | ha'
    · rfl
    · exact absurd hk (hne a' ha' b b' hb hb')
    · exact absurd hk.symm (hne a ha b' b hb' hb)
    · exact ih hrest ha ha'

/-- A callback tells about the one verdict that it has recorded, or about none, by what it `Owes`. -/
theorem Progress.Owes.told_eq {c : Callback} {a : Account} {p : Progress σ} (h : p.Owes c a) :
    a.told = [] ∨ ∃ x, a.told = [x] ∧ a.recorded = [x] := by
  have htask : ∀ task : Task σ, task.Owes c a →
      a.told = [] ∨ ∃ x, a.told = [x] ∧ a.recorded = [x] := by
    intro task htask
    cases task with
    | called _ _ | asking _ _ _ | gating _ _ _ _ _ _ | gated _ _ _ _ =>
      rw [htask.2]
      exact .inl rfl
    | complete _ _ _ | judging _ _ _ _ | ruled _ | interrupted _ _ _ =>
      rw [show a = {} from htask]
      exact .inl rfl
    | concluded r record =>
      rw [show a = { recorded := [(r, record)] } from htask]
      exact .inl rfl
    | told r record =>
      rw [show a = { recorded := [(r, record)], told := [(r, record)] } from htask]
      exact .inr ⟨_, rfl, rfl⟩
  cases p with
  | next task | waiting _ task => exact htask task h
  | done outcome =>
    rcases h with ⟨r, record, -, rfl⟩ | rfl | ⟨-, rfl⟩
    · exact .inr ⟨_, rfl, rfl⟩
    · exact .inl rfl
    · exact .inl rfl

/-! ### Traffic -/

namespace Traffic

/-- All verdicts that the modules have been told, or are still to be told, with the records of their
messages, by the `log`. -/
def told (T : Traffic σ) : List (Ruling × MessageRecord) :=
  T.log.filterMap (·.task.told?)

theorem told_extend (T : Traffic σ) (e : Event σ) (threads : List (Thread σ)) :
    (T.extend e threads).told = T.told ++ e.task.told?.toList := by
  simp only [told, List.filterMap_append]
  cases h : e.task.told? <;> simp [h]

/-- Callbacks wait for checkers of the filter `f`, and the verdicts are those of its checkers: every
ruling `IsJudged`. -/
structure Attested (f : Filter σ) (T : Traffic σ) : Prop where
  unasked : ∀ thread ∈ T.threads, ∀ c ∈ thread.progress.unasked, c ∈ f.registry.enabled
  heeds : ∀ thread ∈ T.threads, ∀ task, thread.progress.task? = some task → task.Heeds f T.log
  told : ∀ c ∈ T.told, c.1.IsJudged f T.log

theorem attested_start (f : Filter σ) (st : FilterState σ) : (start st).Attested f where
  unasked := by
    intro thread hthread
    cases hthread
  heeds := by
    intro thread hthread
    cases hthread
  told := by
    intro c hc
    cases hc

/-- A callback that has just been taken has nothing from the checkers yet, so the traffic stays
`Attested`. -/
theorem attested_of_thread {f : Filter σ} {T : Traffic σ} (h : T.Attested f) {thread : Thread σ}
    (hunasked : thread.progress.unasked = [])
    (hheeds : ∀ task, thread.progress.task? = some task → task.Heeds f T.log) :
    ({ T with threads := T.threads ++ [thread] } : Traffic σ).Attested f where
  unasked := List.forall_mem_append.2 ⟨h.unasked, by simp [hunasked]⟩
  heeds := by
    intro thread' hthread'
    rcases List.mem_append.1 hthread' with hold | hnew
    · exact h.heeds thread' hold
    · rw [List.mem_singleton.1 hnew]
      exact hheeds
  told := h.told

/-- A callback carries out a task, and the traffic stays `Attested`. -/
theorem attested_of_event {f : Filter σ} {T : Traffic σ} (h : T.Attested f) {i : Nat}
    {thread : Thread σ} {task : Task σ} {p : Progress σ} {state : FilterState σ}
    (hi : T.threads[i]? = some thread) (ht : thread.progress.task? = some task)
    (hstep : f.step T.state task = (p, state)) :
    (T.extend ⟨i, task, T.state, p, state⟩
      (T.threads.set i { thread with progress := p })).Attested f := by
  have hmem := List.mem_of_getElem? hi
  have hheeds := h.heeds thread hmem task ht
  have hlog := List.subset_append_left T.log [⟨i, task, T.state, p, state⟩]
  constructor
  · intro thread' hthread'
    rcases List.mem_or_eq_of_mem_set hthread' with hold | rfl
    · exact h.unasked thread' hold
    · have hunasked : ∀ c ∈ task.unasked, c ∈ f.registry.enabled := by
        have hthread := h.unasked thread hmem
        rwa [Progress.unasked, ht] at hthread
      have hgoes := Filter.unasked_step hunasked T.state
      rwa [hstep] at hgoes
  · intro thread' hthread' task' ht'
    rcases List.mem_or_eq_of_mem_set hthread' with hold | rfl
    · exact (h.heeds thread' hold task' ht').mono hlog
    · exact Filter.heeds_step hstep hheeds ht'
  · intro c hc
    rw [told_extend, List.mem_append, Option.mem_toList] at hc
    rcases hc with hc | hc
    · exact (h.told c hc).mono hlog
    · cases task with
      | concluded r record =>
        cases hc
        exact Ruling.IsJudged.mono hheeds hlog
      | _ => cases hc

/-- Every move keeps `Attested`. -/
theorem attested_of_moved {f : Filter σ} {T T' : Traffic σ} {m : Move σ} (h : T.Attested f)
    (hm : Moved f T m T') : T'.Attested f := by
  cases hm with
  | connected _ _ _ _ _ | aside _ _ _ _ => exact ⟨h.unasked, h.heeds, h.told⟩
  | taken _ | unknown =>
    refine attested_of_thread h rfl fun task ht => ?_
    cases ht
    trivial
  | replied _ => exact attested_of_thread h rfl fun task ht => by cases ht
  | went hi ht _ hstep _ _ _ => exact attested_of_event h hi ht hstep
  | answered hi ht hstep _ => exact attested_of_event h hi ht hstep

theorem attested_run (f : Filter σ) (st : FilterState σ) (moves : List (Move σ)) :
    ((start st).run f moves).Attested f :=
  run_induction (fun _ _ _ _ h hm => attested_of_moved h hm) (sound_start st) (attested_start f st)
    moves

/-! ### Told once -/

theorem Traced.told_eq {f : Filter σ} {T : Traffic σ} (h : T.Traced f) (i : Nat) :
    (account (T.eventsOf i)).told = [] ∨
      ∃ x, (account (T.eventsOf i)).told = [x] ∧ (account (T.eventsOf i)).recorded = [x] := by
  cases hi : T.threads[i]? with
  | some thread => exact (h.owes i thread hi).told_eq
  | none =>
    rw [h.eventsOf_eq_nil hi]
    exact .inl rfl

/-- No message is `told` about twice. -/
theorem nodup_told {f : Filter σ} {T : Traffic σ} (h : T.Traced f) (hR : T.Recorded) :
    (T.told.map fun c => c.1.ctx.message.id).Nodup := by
  -- the identifiers are told apart by callback first: one callback tells about one verdict at most
  have hpairs : T.told = (T.log.filterMap fun e => e.task.told?.map fun c => (e.thread, c)).map
      Prod.snd := by
    rw [told, List.map_filterMap]
    congr 1
    funext e
    cases e.task.told? <;> rfl
  rw [hpairs, List.map_map]
  refine nodup_map_of_filter Prod.fst _ (fun i => ?_) fun x hx y hy heq => ?_
  · have hone : ((T.log.filterMap fun e => e.task.told?.map fun c => (e.thread, c)).filter
        fun x => x.1 = i).map Prod.snd = (account (T.eventsOf i)).told := by
      show _ = (T.log.filter fun e => e.thread = i).filterMap fun e => e.task.told?
      rw [List.filter_filterMap, List.map_filterMap, List.filterMap_filter]
      congr 1
      funext e
      by_cases hthread : e.thread = i <;> cases e.task.told? <;> simp [hthread]
    rw [← List.map_map, hone]
    rcases h.told_eq i with hnil | ⟨x, hx, -⟩
    · rw [hnil]
      exact List.nodup_nil
    · rw [hx]
      exact List.pairwise_singleton ..
  · -- each of the two callbacks has recorded the verdict that it tells about
    have hrecorded : ∀ x ∈ T.log.filterMap fun e => e.task.told?.map fun c => (e.thread, c),
        ∃ e ∈ T.log, e.thread = x.1 ∧ e.concluded? = some x.2 := by
      intro x hx
      obtain ⟨e, he, hmap⟩ := List.mem_filterMap.1 hx
      obtain ⟨c, hc, rfl⟩ := Option.map_eq_some_iff.1 hmap
      have hmem : c ∈ (account (T.eventsOf e.thread)).told :=
        List.mem_filterMap.2 ⟨e, List.mem_filter.2 ⟨he, by simp⟩, hc⟩
      rcases h.told_eq e.thread with hnil | ⟨y, hy, hrec⟩
      · rw [hnil] at hmem
        cases hmem
      · rw [hy, List.mem_singleton] at hmem
        subst hmem
        have hin : c ∈ (account (T.eventsOf e.thread)).recorded := by simp [hrec]
        obtain ⟨e', he', hc'⟩ := List.mem_filterMap.1 hin
        obtain ⟨hlog, hthread⟩ := List.mem_filter.1 he'
        exact ⟨e', hlog, by simpa using hthread, hc'⟩
    obtain ⟨e, he, hthread, hc⟩ := hrecorded x hx
    obtain ⟨e', he', hthread', hc'⟩ := hrecorded y hy
    rw [← hthread, ← hthread', eq_of_nodup_filterMap hR.once he he' hc hc' heq]

/-- The end of a message that is over has `told` about its verdict, or it has recorded none. -/
theorem told_of_over {f : Filter σ} {T : Traffic σ} (hT : T.Traced f) {i : Nat} {thread : Thread σ}
    {outcome : Except Panic Answer} (hi : T.threads[i]? = some thread)
    (hstage : thread.callback.stage = .eom) (hdone : thread.progress = .done outcome) :
    (∃ r record, outcome = .ok r.answer ∧ (r, record) ∈ T.told) ∨
      (account (T.eventsOf i)).recorded = [] := by
  have howes := hT.owes i thread hi
  rw [hdone] at howes
  rcases howes with ⟨r, record, hanswer, haccount⟩ | haccount | ⟨hne, -⟩
  · have hmem : (r, record) ∈ (account (T.eventsOf i)).told := by simp [haccount]
    obtain ⟨e, he, htold⟩ := List.mem_filterMap.1 hmem
    exact .inl ⟨r, record, hanswer, List.mem_filterMap.2 ⟨e, List.mem_of_mem_filter he, htold⟩⟩
  · rw [haccount]
    exact .inr rfl
  · exact absurd hstage hne

/-! ### Left to itself -/

variable {f : Filter σ} {T : Traffic σ} {i : Nat} {thread : Thread σ} {p : Progress σ}
  {st : FilterState σ} {task : Task σ}

theorem Reaches.log_go (h : T.Reaches i thread p st) (ht : p.task? = some task) :
    (T.move f (.go i)).log
      = T.log ++ [⟨i, task, st, (f.step st task).1, (f.step st task).2⟩] := by
  obtain ⟨hi, rfl⟩ := h
  exact congrArg log (go_of_task hi ht)

theorem Reaches.told_go (h : T.Reaches i thread p st) (ht : p.task? = some task) :
    (T.move f (.go i)).told = T.told ++ task.told?.toList := by
  obtain ⟨hi, rfl⟩ := h
  exact (congrArg told (go_of_task hi ht)).trans (told_extend ..)

/-- A message whose checks take no time comes to its verdict, and the modules are `told`, if its callback
is left to itself. -/
theorem Reaches.tells {id : Uuid} {config : Config} {ctx : CheckContext} {s : Session} {m : Message}
    (h : T.Reaches i thread (.next (.complete id config ctx)) st)
    (hprompt : ∀ a ∈ (f.judgingAt st config ctx).pending, a.atMs = 0)
    (hs : st.sessions.held? id = some s) (hm : s.current? = some m)
    (hid : m.id = ctx.message.id) :
    ∃ r record, r = Filter.ruled id config ctx (f.verdictAt st config ctx) ∧
      (T.run f (List.replicate 4 (.go i))).told = T.told ++ [(r, record)] ∧
      (T.run f (List.replicate 4 (.go i))).threads[i]?
        = some { thread with progress := .done (.ok r.answer) } ∧
      ∃ e ∈ (T.run f (List.replicate 4 (.go i))).log,
        e.task = .complete id config ctx ∧ e.before = st := by
  obtain ⟨r, hr⟩ : ∃ r, r = Filter.ruled id config ctx (f.verdictAt st config ctx) := ⟨_, rfl⟩
  obtain ⟨st', hwaited, hstep⟩ := Filter.step_complete_of_prompt hprompt id
  rw [← hr] at hstep
  have hjudged := h.go (f := f) rfl
  have htold := h.told_go (f := f) rfl
  have hlog := h.log_go (f := f) rfl
  rw [hstep] at hjudged
  -- nothing has touched the session while the checks were waited for
  have hheld : ({ st' with metrics := st'.metrics.noteVerdict r.verdict.action } :
      FilterState σ).sessions.held? r.session = some s := by
    rw [hr]
    exact hwaited.sessions ▸ hs
  obtain ⟨s', record, -, hruled⟩ := Filter.step_ruled f hheld hm (hr ▸ hid)
  have hrecorded := hjudged.go (f := f) rfl
  rw [hruled] at hrecorded
  have hnoted := hrecorded.go (f := f) rfl
  have hanswered := hnoted.go (f := f) rfl
  refine ⟨r, record, hr, ?_, hanswered.thread,
    ⟨i, .complete id config ctx, st, (f.step st (.complete id config ctx)).1,
      (f.step st (.complete id config ctx)).2⟩, ?_, rfl, rfl⟩
  · show ((((T.move f (.go i)).move f (.go i)).move f (.go i)).move f (.go i)).told = _
    rw [hnoted.told_go rfl, hrecorded.told_go rfl, hjudged.told_go rfl, htold]
    simp [Task.told?]
  · show _ ∈ ((((T.move f (.go i)).move f (.go i)).move f (.go i)).move f (.go i)).log
    rw [hnoted.log_go rfl, hrecorded.log_go rfl, hjudged.log_go rfl, hlog]
    simp only [List.append_assoc]
    exact List.mem_append_right _ List.mem_cons_self

end Traffic

end MailFilter
