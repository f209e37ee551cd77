/-
Traffic: any number of callbacks under way at the same time.

A callback is taken once and then goes on task by task; between two of its tasks anything else may
happen. The log keeps what every task has done, in order.

* `sound_run`: sessions have identifiers of their own, and callbacks hold sessions that are there;
* `moved_move`: all that one move can do, with every task resolved into its outcome;
* `run_induction`: what a start and every move preserve holds for all traffic.
-/
import MailFilter.Proofs.Filter.Outcome

namespace MailFilter

variable {σ : Type}

namespace Traffic

/-- A `Callback`, from when it has been taken. -/
structure Thread (σ : Type) where
  session : Option Uuid
  callback : Callback
  progress : Progress σ

/-- A `Task` that a callback has carried out, and what followed. -/
structure Event (σ : Type) where
  thread : Nat
  task : Task σ
  before : FilterState σ
  result : Progress σ
  after : FilterState σ

/-- What may happen next. -/
inductive Move (σ : Type) where
  | connect (ip : Option Ip) (port : Option Nat) (reverseDns : Option String)
  | call (session : Option Uuid) (callback : Callback)
  /-- A callback carries out its next task. -/
  | go (thread : Nat)
  | prune (now : Timestamp)
  | overrideConfig (session : Uuid) (config : Config)
  /-- Anything that leaves the sessions alone: time goes by, settings are replaced, records are
  saved, checkers are at work. -/
  | elsewhere (after : FilterState σ)

end Traffic

/-- A filter, the callbacks that it has taken, and what they have done so far. -/
structure Traffic (σ : Type) where
  state : FilterState σ
  threads : List (Traffic.Thread σ) := []
  log : List (Traffic.Event σ) := []

namespace Traffic

/-- A filter without sessions. -/
def start (st : FilterState σ) : Traffic σ :=
  { state := { st with sessions := {} } }

/-- After the event `e`, with the callbacks as they are then. -/
abbrev extend (T : Traffic σ) (e : Event σ) (threads : List (Thread σ)) : Traffic σ :=
  { state := e.after, threads, log := T.log ++ [e] }

/-- The callback at the place `i` carries out its next task, if it is not over. -/
def go (f : Filter σ) (i : Nat) (T : Traffic σ) : Traffic σ :=
  match T.threads[i]? with
  | none => T
  | some thread =>
    match thread.progress.task? with
    | none => T
    | some task =>
      let (progress, state) := f.step T.state task
      { state
        threads := T.threads.set i { thread with progress }
        log := T.log ++ [⟨i, task, T.state, progress, state⟩] }

/-- One `Move`. -/
def move (f : Filter σ) (T : Traffic σ) : Move σ → Traffic σ
  | .connect ip port reverseDns => { T with state := (T.state.connect ip port reverseDns).2 }
  | .call session c => { T with threads := T.threads ++ [⟨session, c, Filter.call session c T.state⟩] }
  | .go i => T.go f i
  | .prune now => { T with state := (T.state.prune f now).2 }
  | .overrideConfig id config => { T with state := T.state.overrideConfig id config }
  | .elsewhere after =>
    { T with state := { after with sessions := T.state.sessions, serial := T.state.serial } }

/-- Moves one after the other, each by `move`. -/
def run (f : Filter σ) (T : Traffic σ) (moves : List (Move σ)) : Traffic σ :=
  moves.foldl (move f) T

end Traffic

/-- A filter without checkers. -/
def Filter.bare : Filter Unit := { registry := ⟨[]⟩, maxAgeSecs := 900 }

/-- A state in which nothing has happened yet. -/
def FilterState.blank (config : Config) : FilterState Unit :=
  { config, clock := { nanos := 0 }, memory := (), queue := Queue.new 1 .nowhere }

/-! ### Identifiers -/

theorem Uuid.issued_inj {m n : Nat} (h : Uuid.issued m = Uuid.issued n) : m = n := by
  have hvalue := congrArg Uuid.value h
  simp only [issued, Nat.shiftLeft_eq, Nat.shiftRight_eq_div_pow] at hvalue
  omega

/-- An identifier that has been given out is not the next one, `Uuid.issued k`. -/
theorem Uuid.ne_issued {k : Nat} {id : Uuid} (h : ∃ n < k, id = Uuid.issued n) :
    id ≠ Uuid.issued k := by
  obtain ⟨n, hn, rfl⟩ := h
  intro heq
  have := Uuid.issued_inj heq
  omega

/-- How many identifiers a `Task` uses up. -/
def Task.identifiers : Task σ → Nat
  | called _ .close => 0
  | called _ _ => 1
  | _ => 0

namespace Filter

theorem serial_locked {β : Type} (id : Uuid) (stage : Stage) (change : Change Session β)
    (next : β → Progress σ) (st : FilterState σ) :
    (locked id stage change next st).2.serial = st.serial := by
  unfold locked changeHeld
  cases st.sessions.held? id with
  | none => rfl
  | some s =>
    dsimp only
    rcases change s with ⟨result, s'⟩
    cases result <;> rfl

theorem serial_answerFailure (stage : Stage) (id : Option Uuid) (e : Failure)
    (st : FilterState σ) : (answerFailure stage id e st).2.serial = st.serial := by
  unfold answerFailure
  dsimp only
  split
  · split <;> rfl
  · rfl

/-- Only a callback that has just been taken uses up an identifier: a `step` uses up the `identifiers` of
its task. -/
theorem serial_step (f : Filter σ) (st : FilterState σ) (task : Task σ) :
    (step f st task).2.serial = st.serial + task.identifiers := by
  cases task with
  | called id c =>
    cases c with
    | close => exact (leave_keeps ..).2
    | _ => exact serial_locked ..
  | asking id connection recipient | gating id connection recipient outcome deferred rest =>
    simp only [step, gateOn]
    split <;> rfl
  | gated id connection recipient answer =>
    simp only [step, gated]
    split
    · exact serial_locked ..
    · rfl
  | complete id config ctx =>
    simp only [step, judge, judgeOn, receiveUntil]
    split <;> rfl
  | judging id config ctx j =>
    simp only [step, judgeOn, receiveUntil]
    split <;> rfl
  | ruled r => exact serial_locked ..
  | concluded r record => rfl
  | told r record =>
    rfl
  | interrupted stage id reason =>
    cases reason with
    | failure e => exact serial_answerFailure ..
    | panic p =>
      simp only [step, answerInterruption]
      split
      · rfl
      · exact serial_answerFailure ..

end Filter

/-- Sessions that differ in their settings at most. -/
structure Session.SameCourse (s s' : Session) : Prop where
  id : s'.id = s.id
  position : s'.position = s.position
  messages : s'.messages = s.messages

theorem Session.SameCourse.refl (s : Session) : s.SameCourse s := ⟨rfl, rfl, rfl⟩

namespace Traffic

/-! ### What a move can do -/

/-- Sessions have identifiers of their own, none of them still to be given out, and a callback that
can do anything to a session holds one that is there. -/
structure Sound (T : Traffic σ) : Prop where
  distinct : T.state.sessions.Distinct
  issued : ∀ id ∈ T.state.sessions.ids, ∃ n < T.state.serial, id = Uuid.issued n
  session : ∀ (i : Nat) (thread : Thread σ) (task : Task σ), T.threads[i]? = some thread →
    thread.progress.task? = some task → task.session? = thread.session
  held : ∀ (i : Nat) (thread : Thread σ) (task : Task σ), T.threads[i]? = some thread →
    thread.progress.task? = some task →
    (∃ id ∈ T.state.sessions.ids, thread.session = some id) ∨
      ∃ stage reason, task = .interrupted stage thread.session reason

/-- The traffic `T'` after one `Move`. -/
inductive Moved (f : Filter σ) (T : Traffic σ) : Move σ → Traffic σ → Prop where
  | connected {ip : Option Ip} {port : Option Nat} {reverseDns : Option String}
      {state : FilterState σ} {s : Session} (hid : s.id = Uuid.issued T.state.serial)
      (hposition : s.position = .connected) (hmessages : s.messages = [])
      (hserial : state.serial = T.state.serial + 1)
      (hsessions : state.sessions = T.state.sessions.insert s) :
      Moved f T (.connect ip port reverseDns) { T with state }
  /-- A callback has been taken, and its session has been found. -/
  | taken {id : Uuid} {c : Callback} (hid : id ∈ T.state.sessions.ids) :
      Moved f T (.call (some id) c)
        { T with threads := T.threads ++ [⟨some id, c, .next (.called id c)⟩] }
  /-- A callback has been answered at once. -/
  | replied {session : Option Uuid} {c : Callback} {reply : Reply} (hc : ∀ q, c ≠ .eom q) :
      Moved f T (.call session c)
        { T with threads := T.threads ++ [⟨session, c, .replied reply⟩] }
  /-- A callback has been taken, but its session cannot be found. -/
  | unknown {session : Option Uuid} {c : Callback} :
      Moved f T (.call session c)
        { T with
          threads := T.threads ++ [⟨session, c, .failed c.stage session (.noSession c.stage)⟩] }
  /-- A callback has carried out a task on its session. -/
  | went {i : Nat} {thread : Thread σ} {task : Task σ} {progress : Progress σ}
      {state : FilterState σ} {id : Uuid} {s s' : Session} (hi : T.threads[i]? = some thread)
      (ht : thread.progress.task? = some task) (hid : thread.session = some id)
      (hstep : f.step T.state task = (progress, state))
      (hs : T.state.sessions.held? id = some s) (ho : task.Outcome f T.state id s progress s')
      (hsessions : T.state.sessions.Replaces state.sessions s') :
      Moved f T (.go i)
        (T.extend ⟨i, task, T.state, progress, state⟩ (T.threads.set i { thread with progress }))
  /-- A callback without a session has been answered. -/
  | answered {i : Nat} {thread : Thread σ} {stage : Stage} {reason : Interruption}
      {outcome : Except Panic Answer} {state : FilterState σ} (hi : T.threads[i]? = some thread)
      (ht : thread.progress.task? = some (.interrupted stage thread.session reason))
      (hstep : f.step T.state (.interrupted stage thread.session reason) = (.done outcome, state))
      (hsessions : state.sessions = T.state.sessions) :
      Moved f T (.go i)
        (T.extend ⟨i, .interrupted stage thread.session reason, T.state, .done outcome, state⟩
          (T.threads.set i { thread with progress := .done outcome }))
  /-- Sessions have been removed, their settings replaced, or something else has gone on. -/
  | aside {m : Move σ} {state : FilterState σ} (g : Session → Session)
      (hg : ∀ s : Session, s.SameCourse (g s)) (hserial : state.serial = T.state.serial)
      (hsessions : state.sessions.all = T.state.sessions.all.map g) :
      Moved f T m { T with state }

/-! ### After a move -/

/-- A task uses up its `identifiers`. -/
theorem serial_of_step {f : Filter σ} {st st' : FilterState σ} {task : Task σ} {p : Progress σ}
    (hstep : f.step st task = (p, st')) : st'.serial = st.serial + task.identifiers := by
  have hserial := Filter.serial_step f st task
  rwa [hstep] at hserial

/-- A task changes no session but its own, which it `Replaces`. -/
theorem held?_of_outcome {f : Filter σ} {st st' : FilterState σ} {id : Uuid} {s s' : Session}
    {task : Task σ} {p : Progress σ} (hs : st.sessions.held? id = some s)
    (ho : task.Outcome f st id s p s') (hsessions : st.sessions.Replaces st'.sessions s')
    (id' : Uuid) :
    st'.sessions.held? id' = if id = id' then some s' else st.sessions.held? id' := by
  have hid : s'.id = id := ho.id_eq.trans (SessionTable.id_of_held? hs)
  rw [hsessions.held? (hid ▸ hs), hid]

/-- What happens aside from callbacks changes no more of a session than its settings: it is in the
`SameCourse`. -/
theorem held?_of_aside {st st' : FilterState σ} {g : Session → Session}
    (hg : ∀ s : Session, s.SameCourse (g s)) (hsessions : st'.sessions.all = st.sessions.all.map g)
    {id : Uuid} {s' : Session} (hs' : st'.sessions.held? id = some s') :
    ∃ s, st.sessions.held? id = some s ∧ s.SameCourse s' := by
  rw [SessionTable.held?_of_map (fun s => (hg s).id) hsessions] at hs'
  obtain ⟨s, hs, rfl⟩ := Option.map_eq_some_iff.1 hs'
  exact ⟨s, hs, hg s⟩

/-- Without its session, a callback whose work has been cut short is answered by `step` and no more. -/
theorem answered_step (f : Filter σ) {st : FilterState σ} {session : Option Uuid}
    (hfind : session.bind st.sessions.find? = none) (stage : Stage) (reason : Interruption) :
    ∃ outcome, (f.step st (.interrupted stage session reason)).1 = .done outcome ∧
      (f.step st (.interrupted stage session reason)).2.sessions = st.sessions := by
  cases reason with
  | failure e =>
    simp [Filter.step, Filter.answerInterruption, Filter.answerFailure, hfind, Progress.replied]
  | panic p =>
    simp only [Filter.step, Filter.answerInterruption]
    split
    · exact ⟨_, rfl, rfl⟩
    · simp [Filter.answerFailure, hfind, Progress.replied]

/-- Settings replaced by `overrideConfig` change no more of a session than its settings. -/
theorem all_overrideConfig {st : FilterState σ} (hd : st.sessions.Distinct) (id : Uuid)
    (config : Config) :
    ∃ g : Session → Session, (∀ s : Session, s.SameCourse (g s)) ∧
      (st.overrideConfig id config).sessions.all = st.sessions.all.map g := by
  unfold FilterState.overrideConfig
  cases hf : st.sessions.find? id with
  | none => exact ⟨fun s => s, .refl, (List.map_id' _).symm⟩
  | some s =>
    refine ⟨fun x => if x.id = s.id then x.overrideConfig config else x, fun x => ?_, ?_⟩
    · dsimp only
      split
      · exact ⟨rfl, rfl, rfl⟩
      · exact .refl x
    · show (st.sessions.update (s.overrideConfig config)).all = _
      rw [SessionTable.all_update]
      refine List.map_congr_left fun x hx => ?_
      show (if x.id = s.id then s.overrideConfig config else x) = _
      by_cases hid : x.id = s.id
      · -- the session that is found is the only one with its identifier
        have hx' := SessionTable.held?_of_mem hd hx
        have hs' := SessionTable.held?_of_mem hd
          (SessionTable.mem_all_of_held? (SessionTable.held?_of_find? hd hf))
        rw [hid, hs'] at hx'
        rw [if_pos hid, if_pos hid, Option.some.inj hx']
      · rw [if_neg hid, if_neg hid]

theorem moved_call (f : Filter σ) {T : Traffic σ} (hT : T.Sound) (session : Option Uuid)
    (c : Callback) : Moved f T (.call session c) (T.move f (.call session c)) := by
  show Moved f T _ { T with threads := T.threads ++ [⟨session, c, Filter.call session c T.state⟩] }
  unfold Filter.call
  cases session with
  | none =>
    cases c with
    | abort => exact .replied (by simp)
    | close => exact .replied (by simp)
    | _ => exact .unknown
  | some id =>
    rw [Option.bind_some]
    cases hf : T.state.sessions.find? id with
    | none =>
      cases c with
      | abort => exact .replied (by simp)
      | close => exact .replied (by simp)
      | _ => exact .unknown
    | some s =>
      have hs := SessionTable.held?_of_find? hT.distinct hf
      obtain rfl := SessionTable.id_of_held? hs
      have hid := SessionTable.mem_ids_of_held? hs
      cases c with
      | envRcpt args =>
        cases args with
        -- without a recipient the checkers have nothing to be asked
        | nil => exact .replied (by simp)
        | cons arg rest => exact .taken hid
      | _ => exact .taken hid

theorem moved_go (f : Filter σ) {T : Traffic σ} (hT : T.Sound) (i : Nat) :
    Moved f T (.go i) (T.move f (.go i)) := by
  have hstay : Moved f T (.go i) { T with state := T.state } :=
    .aside (fun s => s) .refl rfl (List.map_id' _).symm
  show Moved f T (.go i) (T.go f i)
  unfold go
  cases hi : T.threads[i]? with
  | none => exact hstay
  | some thread =>
    dsimp only
    cases ht : thread.progress.task? with
    | none => exact hstay
    | some task =>
      dsimp only
      have hsession := hT.session i thread task hi ht
      have hwent : ∀ id s, thread.session = some id → T.state.sessions.held? id = some s →
          Moved f T (.go i)
            (T.extend ⟨i, task, T.state, (f.step T.state task).1, (f.step T.state task).2⟩
              (T.threads.set i { thread with progress := (f.step T.state task).1 })) := by
        intro id s hid hs
        obtain ⟨s', ho, hsessions⟩ := Filter.outcome_step f hT.distinct (hsession.trans hid) hs
        exact .went hi ht hid rfl hs ho hsessions
      rcases hT.held i thread task hi ht with ⟨id, hmem, hid⟩ | ⟨stage, reason, rfl⟩
      · obtain ⟨s, hs⟩ : ∃ s, T.state.sessions.held? id = some s := by
          rw [← Option.isSome_iff_exists, ← Option.ne_none_iff_isSome]
          exact fun h => SessionTable.held?_eq_none.1 h hmem
        exact hwent id s hid hs
      · -- the session may never have been found, or have gone since: then there is only an answer
        show Moved f T (.go i) (T.extend ⟨i, _, T.state, (f.step T.state _).1, (f.step T.state _).2⟩ _)
        cases hfind : thread.session.bind T.state.sessions.find? with
        | some s =>
          obtain ⟨id, hid, hf⟩ := Option.bind_eq_some_iff.1 hfind
          exact hwent id s hid (SessionTable.held?_of_find? hT.distinct hf)
        | none =>
          obtain ⟨outcome, hout, hsessions⟩ := answered_step f hfind stage reason
          rw [hout]
          exact .answered hi ht (Prod.ext hout rfl) hsessions

/-- One `move` does one of the things that `Moved` lists. -/
theorem moved_move (f : Filter σ) {T : Traffic σ} (hT : T.Sound) (m : Move σ) :
    Moved f T m (T.move f m) := by
  cases m with
  | connect ip port reverseDns =>
    exact .connected (s := Session.new (Uuid.issued T.state.serial) T.state.config T.state.clock ip
      port reverseDns) rfl rfl rfl rfl rfl
  | call session c => exact moved_call f hT session c
  | go i => exact moved_go f hT i
  | prune now =>
    obtain ⟨hsessions, hserial⟩ := Filter.prune_keeps f now T.state
    refine .aside (fun s => s) .refl hserial ?_
    rw [hsessions, List.map_id']
    exact SessionTable.all_removeWhere ..
  | overrideConfig id config =>
    obtain ⟨g, hg, hall⟩ := all_overrideConfig hT.distinct id config
    refine .aside g hg ?_ hall
    show (T.state.overrideConfig id config).serial = T.state.serial
    unfold FilterState.overrideConfig
    cases T.state.sessions.find? id <;> rfl
  | elsewhere after => exact .aside (fun s => s) .refl rfl (List.map_id' _).symm

/-! ### Reachable traffic -/

/-- After a step of a callback, its thread is a new one and the others are as before, wherever they
stand. -/
theorem getElem?_set_iff {α : Type} {l : List α} {i j : Nat} {a b x : α} (hi : l[i]? = some a) :
    (l.set i x)[j]? = some b ↔ (i = j ∧ x = b) ∨ (i ≠ j ∧ l[j]? = some b) := by
  obtain ⟨hlt, -⟩ := List.getElem?_eq_some_iff.1 hi
  rw [List.getElem?_set]
  by_cases hij : i = j
  · subst hij
    simp [hlt]
  · simp [hij]

theorem getElem?_concat_iff {α : Type} {l : List α} {j : Nat} {b x : α} :
    (l ++ [x])[j]? = some b ↔ l[j]? = some b ∨ (j = l.length ∧ x = b) := by
  rw [List.getElem?_append]
  by_cases hj : j < l.length
  · simp [hj, Nat.ne_of_lt hj]
  · have hnone : l[j]? = none := List.getElem?_eq_none (by omega)
    rw [if_neg hj, hnone]
    by_cases heq : j = l.length
    · simp [heq]
    · simp [heq, show j - l.length ≠ 0 by omega]

end Traffic

/-- What follows a task on a session, by its `Outcome`, works on the same session. -/
theorem Task.Outcome.session_eq {f : Filter σ} {st : FilterState σ} {id : Uuid} {s s' : Session}
    {task task' : Task σ} {p : Progress σ} (h : task.Outcome f st id s p s') (hs : s.id = id)
    (hp : p.task? = some task') : task'.session? = some id := by
  have hs' : s'.id = id := h.id_eq.trans hs
  cases h with
  | followed hc he =>
    unfold Filter.follow at hp
    split at hp
    · cases hp
      exact congrArg some hs'
    · split at hp
      · cases hp
        exact congrArg some hs'
      · cases hp
        exact congrArg some hs'
    · cases hp
  | concluded hr | noted hr =>
    cases hp
    exact congrArg some hr
  | closed | refused _ | accepted _ | handed _ | answered | ended _ => cases hp
  | failed _ _ | decided _ _ | panicked _ _ | asked _ _ | missed _ | awaited _ _ _ _ | judged _ _ _
  | lost _ _ =>
    cases hp
    rfl

namespace Traffic

theorem sound_start (st : FilterState σ) : (start st).Sound where
  distinct := List.nodup_nil
  issued := by
    intro id hid
    cases hid
  session := by
    intro i thread task hi
    simp [start] at hi
  held := by
    intro i thread task hi
    simp [start] at hi

/-- In `Sound` traffic the next identifier does not belong to a session yet. -/
theorem Sound.not_issued {T : Traffic σ} (hT : T.Sound) :
    Uuid.issued T.state.serial ∉ T.state.sessions.ids := by
  intro hmem
  exact Uuid.ne_issued (hT.issued _ hmem) rfl

/-- New threads and new sessions aside, a move that keeps what threads hold keeps `Sound`. -/
theorem sound_of_thread {T : Traffic σ} (hT : T.Sound) {session : Option Uuid} {c : Callback}
    {p : Progress σ} (hsession : ∀ task, p.task? = some task → task.session? = session)
    (hheld : ∀ task, p.task? = some task → (∃ id ∈ T.state.sessions.ids, session = some id) ∨
      ∃ stage reason, task = .interrupted stage session reason) :
    ({ T with threads := T.threads ++ [⟨session, c, p⟩] } : Traffic σ).Sound where
  distinct := hT.distinct
  issued := hT.issued
  session := by
    intro i thread task hi ht
    rcases getElem?_concat_iff.1 hi with hi | ⟨-, rfl⟩
    · exact hT.session i thread task hi ht
    · exact hsession task ht
  held := by
    intro i thread task hi ht
    rcases getElem?_concat_iff.1 hi with hi | ⟨-, rfl⟩
    · exact hT.held i thread task hi ht
    · exact hheld task ht

/-- `Sound` is kept as long as the sessions keep their identifiers, and a callback that goes on goes on
with a session that is there. -/
theorem sound_of_ids {T T' : Traffic σ} (hT : T.Sound)
    (hids : T'.state.sessions.ids = T.state.sessions.ids)
    (hserial : T.state.serial ≤ T'.state.serial)
    (hthreads : ∀ (i : Nat) (thread : Thread σ) (task : Task σ), T'.threads[i]? = some thread →
      thread.progress.task? = some task → T.threads[i]? = some thread ∨
        (task.session? = thread.session ∧ ∃ id ∈ T.state.sessions.ids, thread.session = some id)) :
    T'.Sound where
  distinct := by
    rw [SessionTable.Distinct, hids]
    exact hT.distinct
  issued := by
    intro x hx
    obtain ⟨n, hn, rfl⟩ := hT.issued x (hids ▸ hx)
    exact ⟨n, Nat.lt_of_lt_of_le hn hserial, rfl⟩
  session := by
    intro i thread task hi ht
    rcases hthreads i thread task hi ht with hi | ⟨hsession, -⟩
    · exact hT.session i thread task hi ht
    · exact hsession
  held := by
    intro i thread task hi ht
    rw [hids]
    rcases hthreads i thread task hi ht with hi | ⟨-, hheld⟩
    · exact hT.held i thread task hi ht
    · exact .inl hheld

/-- A session that connects gets an identifier that no session has had, which keeps `Sound`. -/
theorem sound_connected {T : Traffic σ} (hT : T.Sound) {state : FilterState σ} {s : Session}
    (hid : s.id = Uuid.issued T.state.serial) (hserial : state.serial = T.state.serial + 1)
    (hsessions : state.sessions = T.state.sessions.insert s) :
    ({ T with state } : Traffic σ).Sound := by
  have hids : state.sessions.ids = T.state.sessions.ids ++ [s.id] := by
    rw [hsessions, SessionTable.ids_insert]
  have hfresh : s.id ∉ T.state.sessions.ids := hid ▸ hT.not_issued
  constructor
  case distinct =>
    show state.sessions.Distinct
    rw [hsessions]
    exact SessionTable.distinct_insert hT.distinct hfresh
  case issued =>
    intro id hmem
    show ∃ n < state.serial, _
    rw [hserial]
    rcases List.mem_append.1 (hids ▸ hmem) with hold | hnew
    · obtain ⟨n, hn, rfl⟩ := hT.issued id hold
      exact ⟨n, Nat.lt_succ_of_lt hn, rfl⟩
    · rw [List.mem_singleton.1 hnew, hid]
      exact ⟨T.state.serial, Nat.lt_succ_self _, rfl⟩
  case session => exact hT.session
  case held =>
    intro i thread task hi ht
    rcases hT.held i thread task hi ht with ⟨id, hmem, hid⟩ | hanswer
    · exact .inl ⟨id, hids ▸ List.mem_append_left _ hmem, hid⟩
    · exact .inr hanswer

/-- Every move keeps `Sound`. -/
theorem sound_of_moved {f : Filter σ} {T T' : Traffic σ} {m : Move σ} (hT : T.Sound)
    (h : Moved f T m T') : T'.Sound := by
  cases h with
  | connected hid _ _ hserial hsessions => exact sound_connected hT hid hserial hsessions
  | taken hid =>
    refine sound_of_thread hT ?_ ?_
    · rintro task ⟨⟩
      rfl
    · rintro task ⟨⟩
      exact .inl ⟨_, hid, rfl⟩
  | replied hc => exact sound_of_thread hT (by rintro task ⟨⟩) (by rintro task ⟨⟩)
  | unknown =>
    refine sound_of_thread hT ?_ ?_
    · rintro task ⟨⟩
      rfl
    · rintro task ⟨⟩
      exact .inr ⟨_, _, rfl⟩
  | @went _ _ task _ _ id s s' hi ht hid hstep hs ho hsessions =>
    -- what goes on goes on with the session of the task, which is in the table still
    have hserial := serial_of_step hstep
    refine sound_of_ids hT hsessions.ids (Nat.le.intro hserial.symm) fun j thread task' hj ht' => ?_
    rcases (getElem?_set_iff hi).1 hj with ⟨-, rfl⟩ | ⟨-, hj⟩
    · exact .inr ⟨(ho.session_eq (SessionTable.id_of_held? hs) ht').trans hid.symm,
        id, SessionTable.mem_ids_of_held? hs, hid⟩
    · exact .inl hj
  | answered hi ht hstep hsessions =>
    have hserial := serial_of_step hstep
    refine sound_of_ids hT (congrArg _ hsessions) (Nat.le.intro hserial.symm)
      fun j thread task hj ht' => ?_
    rcases (getElem?_set_iff hi).1 hj with ⟨-, rfl⟩ | ⟨-, hj⟩
    · cases ht'
    · exact .inl hj
  | aside g hg hserial hsessions =>
    exact sound_of_ids hT (SessionTable.ids_of_map (fun s => (hg s).id) hsessions)
      (Nat.le_of_eq hserial.symm) fun _ _ _ hi _ => .inl hi

theorem sound_run (f : Filter σ) {T : Traffic σ} (hT : T.Sound) (moves : List (Move σ)) :
    (T.run f moves).Sound := by
  induction moves generalizing T with
  | nil => exact hT
  | cons m rest ih => exact ih (sound_of_moved hT (moved_move f hT m))

/-! ### Moves that leave messages alone -/

/-- An answer to work that has been cut short. -/
def Event.IsAnswer (e : Event σ) : Prop :=
  ∃ stage session reason outcome, e.task = .interrupted stage session reason ∧
    e.result = .done outcome

/-- From `T` to `T'` every session takes its course as before, and there may be a new one without
messages. -/
structure Undisturbed (T T' : Traffic σ) : Prop where
  serial : T.state.serial ≤ T'.state.serial
  session : ∀ id s', T'.state.sessions.held? id = some s' →
    s'.messages = [] ∨ ∃ s, T.state.sessions.held? id = some s ∧ s.SameCourse s'
  kept : ∀ id s, T.state.sessions.held? id = some s →
    ∃ s', T'.state.sessions.held? id = some s' ∧ s.SameCourse s'
  log : T'.log = T.log ∨ ∃ e : Event σ, e.IsAnswer ∧ T'.log = T.log ++ [e]

theorem Undisturbed.filterMap_log {T T' : Traffic σ} (h : T.Undisturbed T') {β : Type}
    {g : Event σ → Option β} (hg : ∀ e : Event σ, e.IsAnswer → g e = none) :
    T'.log.filterMap g = T.log.filterMap g := by
  rcases h.log with hlog | ⟨e, he, hlog⟩
  · rw [hlog]
  · rw [hlog, List.filterMap_append, List.filterMap_cons_none (hg e he), List.filterMap_nil,
      List.append_nil]

/-- A move that leaves all sessions alone, but for their settings, is `Undisturbed`. -/
theorem undisturbed_of_map {T T' : Traffic σ} {g : Session → Session}
    (hg : ∀ s : Session, s.SameCourse (g s)) (hserial : T'.state.serial = T.state.serial)
    (hsessions : T'.state.sessions.all = T.state.sessions.all.map g)
    (hlog : T'.log = T.log ∨ ∃ e : Event σ, e.IsAnswer ∧ T'.log = T.log ++ [e]) :
    T.Undisturbed T' where
  serial := Nat.le_of_eq hserial.symm
  session := fun _ _ hs' => .inr (held?_of_aside hg hsessions hs')
  kept := by
    intro id s hs
    refine ⟨g s, ?_, hg s⟩
    rw [SessionTable.held?_of_map (fun s => (hg s).id) hsessions, hs]
    rfl
  log := hlog

/-- A move carries out a task on a session, with its `Outcome`, or it leaves all messages
`Undisturbed`. -/
theorem Moved.undisturbed_or_went {f : Filter σ} {T T' : Traffic σ} {m : Move σ} (hT : T.Sound)
    (h : Moved f T m T') :
    T.Undisturbed T' ∨ ∃ i thread task p state id s s', T.threads[i]? = some thread ∧
      thread.progress.task? = some task ∧
      state.serial = T.state.serial + task.identifiers ∧
      T.state.sessions.held? id = some s ∧ task.Outcome f T.state id s p s' ∧
      (∀ id', state.sessions.held? id'
        = if id = id' then some s' else T.state.sessions.held? id') ∧
      T' = T.extend ⟨i, task, T.state, p, state⟩
        (T.threads.set i { thread with progress := p }) := by
  cases h with
  | @connected _ _ _ state s hid hposition hmessages hserial hsessions =>
    -- the session that has connected has no messages yet, and the others are as before
    have hheld := SessionTable.held?_insert (s := s) (hid ▸ hT.not_issued)
    refine .inl ⟨by show _ ≤ state.serial; omega, fun id x hx => ?_, fun id x hx => ?_, .inl rfl⟩
    · rw [hsessions, hheld] at hx
      split at hx
      · obtain rfl := Option.some.inj hx
        exact .inl hmessages
      · exact .inr ⟨x, hx, .refl x⟩
    · refine ⟨x, ?_, .refl x⟩
      rw [hsessions, hheld, if_neg, hx]
      rintro heq
      rw [← heq, hid, SessionTable.held?_eq_none.2 hT.not_issued] at hx
      cases hx
  | taken _ | replied _ | unknown =>
    exact .inl (undisturbed_of_map .refl rfl (List.map_id' _).symm (.inl rfl))
  | went hi ht hid hstep hs ho hsessions =>
    exact .inr ⟨_, _, _, _, _, _, _, _, hi, ht, serial_of_step hstep, hs, ho,
      held?_of_outcome hs ho hsessions, rfl⟩
  | answered hi ht hstep hsessions =>
    refine .inl (undisturbed_of_map .refl (serial_of_step hstep) ?_
      (.inr ⟨_, ⟨_, _, _, _, rfl, rfl⟩, rfl⟩))
    rw [hsessions, List.map_id']
  | aside g hg hserial hsessions => exact .inl (undisturbed_of_map hg hserial hsessions (.inl rfl))

/-- What every move keeps holds after any number of them: after `run`. -/
theorem run_induction {f : Filter σ} {P : Traffic σ → Prop}
    (hmove : ∀ T m T', T.Sound → P T → Moved f T m T' → P T') {T : Traffic σ} (hT : T.Sound)
    (hP : P T) (moves : List (Move σ)) : P (T.run f moves) := by
  induction moves generalizing T with
  | nil => exact hP
  | cons m rest ih =>
    have hmoved := moved_move f hT m
    exact ih (sound_of_moved hT hmoved) (hmove T m _ hT hP hmoved)

end Traffic

end MailFilter
