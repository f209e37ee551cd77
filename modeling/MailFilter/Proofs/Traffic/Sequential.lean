/-
Traffic in which a session has one callback under way at most.

The position of a session and its list of messages are changed by different functions, with failures
and panics in between; still the position tells whether a message is open whenever no callback is under
way. Between the two locks of the end of a message it does not, so what a session looks like depends on
the task that comes next: `Task.Expects`.

* `expects_outcome`: a task that finds what it expects leaves what the next one expects;
* `inOrder_run`: all sequential traffic keeps its sessions that way;
* `sequential_coherent`: the result for the sessions that can be found, and for all failures.
-/
import MailFilter.Proofs.Traffic.Basic

namespace MailFilter

variable {σ : Type}

/-! ### Sessions between callbacks -/

namespace Session

/-- The position of `s` tells whether a message is open, unless the session has failed. -/
def Coherent (s : Session) : Prop :=
  s.position ≠ .failed → (s.position.inMessage = true ↔ s.current?.isSome = true)

/-- All messages of `s` but the last have a verdict. -/
def Settled (s : Session) : Prop :=
  ∀ m ∈ s.messages.dropLast, m.isFinalized = true

/-- The open message of `s` is the one with the identifier `message`, and it takes no more parts. -/
def Awaits (s : Session) (message : Uuid) : Prop :=
  s.position.inMessage = false ∧ ∃ m, s.current? = some m ∧ m.id = message

variable {s s' : Session}

theorem SameCourse.current?_eq (h : s.SameCourse s') : s'.current? = s.current? :=
  current?_congr h.messages

theorem SameCourse.coherent (h : s.SameCourse s') (hs : s.Coherent) : s'.Coherent := by
  rw [Coherent, h.current?_eq, h.position]
  exact hs

theorem SameCourse.settled (h : s.SameCourse s') (hs : s.Settled) : s'.Settled := by
  rw [Settled, h.messages]
  exact hs

/-- When no message of a `Settled` session is open, all of them have a verdict. -/
theorem isFinalized_of_settled (hs : s.Settled) (hc : s.current? = none) :
    ∀ m ∈ s.messages, m.isFinalized = true := by
  intro m hm
  rcases List.eq_nil_or_concat s.messages with hnil | ⟨init, last, hinit⟩
  · rw [hnil] at hm
    cases hm
  · rw [List.concat_eq_append] at hinit
    rw [current?, hinit, List.getLast?_concat] at hc
    rw [Settled, hinit, List.dropLast_concat] at hs
    rw [hinit] at hm
    rcases List.mem_append.1 hm with hm | hm
    · exact hs m hm
    · rw [List.mem_singleton.1 hm]
      simpa using hc

theorem current?_eq_none (h : ∀ m ∈ s.messages, m.isFinalized = true) : s.current? = none := by
  rw [Option.eq_none_iff_forall_ne_some]
  intro m hm
  have hopen := (current?_eq_some.1 hm).2
  rw [h m (mem_of_current? hm)] at hopen
  cases hopen

theorem settled_replaceLast (hs : s.Settled) (m : Message) : (s.replaceLast m).Settled := by
  rw [Settled, messages_replaceLast, List.dropLast_concat]
  exact hs

/-- A message that `abort` abandons leaves a session in which none is open. -/
theorem coherent_abort (hs : s.Settled) : s.abort.2.Settled ∧ s.abort.2.Coherent := by
  have hposition : s.abort.2.position = (s.position.next .abort).getD s.position := by
    unfold abort
    cases s.current? <;> rfl
  have hall : ∀ m ∈ s.abort.2.messages, m.isFinalized = true := by
    unfold abort
    cases hm : s.current? with
    | some m => exact hs
    | none => exact isFinalized_of_settled hs hm
  refine ⟨fun m hm => hall m (List.dropLast_subset _ hm), fun _ => ?_⟩
  rw [hposition, Position.inMessage_abort, current?_eq_none hall]
  simp

end Session

/-! ### One task -/

namespace Callback.Effect

variable {c : Callback} {message : Uuid} {now : Timestamp} {s s' : Session}

/-- Where a `stage` leads on from, a `Coherent` session has a message open just if its
position says so. -/
theorem isSome_of_next {stage : Stage} {position : Position} (hc : s.Coherent)
    (hp : s.position.next stage = some position) :
    s.position.inMessage = true ↔ s.current?.isSome = true := by
  refine hc fun hfailed => ?_
  rw [hfailed] at hp
  cases hp

/-- A callback that fails at first leaves a `Coherent` session coherent, and it is not for want of a
message. -/
theorem coherent_of_failed {e : Failure} (h : c.Effect message now s (.error e) s')
    (hs : s.Settled) (hc : s.Coherent) :
    s'.Settled ∧ s'.Coherent ∧ ∀ stage, e ≠ .noMessage stage := by
  cases h with
  | refused _ he =>
    refine ⟨hs, hc, ?_⟩
    rintro stage rfl
    rcases he with ⟨n, he⟩ | he | he <;> cases he
  | missed ht hp hm =>
    -- the stage leads on within a message only, and then there is an open one
    obtain ⟨hin, -⟩ := Position.inMessage_of_next hp (stage_of_touches ht)
    rw [isSome_of_next hc hp, hm] at hin
    cases hin

/-- A callback that goes on, with its `Effect`, leaves a `Coherent` session coherent, except for the end
of a message: that leaves the message open though the position says otherwise. -/
theorem coherent_of_followed (h : c.Effect message now s (.ok ()) s') (hs : s.Settled)
    (hc : s.Coherent) :
    s'.Settled ∧ (c.stage ≠ .eom → s'.Coherent) ∧ (c.touches = true → s'.current?.isSome = true) ∧
      (c.stage = .eom → s'.position.inMessage = false) := by
  cases h with
  | greeted hstage hp =>
    obtain ⟨hin, rfl⟩ := Position.next_helo hp
    have hnone : ¬ s.current?.isSome = true := by
      rw [← isSome_of_next hc hp, hin]
      simp
    refine ⟨hs, fun _ _ => ⟨fun h => ?_, fun h => absurd h hnone⟩, fun ht => ?_, fun _ => rfl⟩
    · cases h
    · rcases stage_of_touches ht with h | h | h | h | h <;> rw [hstage] at h <;> cases h
  | begun hstage hp =>
    obtain ⟨hin, rfl⟩ := Position.next_envFrom hp
    have hnone : s.current? = none := by
      rw [← Option.not_isSome_iff_eq_none, ← isSome_of_next hc hp, hin]
      simp
    refine ⟨fun m hm => ?_, fun _ _ => ?_, fun _ => ?_, fun h => ?_⟩
    · rw [List.dropLast_concat] at hm
      exact Session.isFinalized_of_settled hs hnone m hm
    · simp [Session.current?, Position.inMessage, Message.new, Message.isFinalized]
    · simp [Session.current?, Message.new, Message.isFinalized]
    · rw [hstage] at h
      cases h
  -- the position after a stage is in a message unless the stage ends it, and the message stays open
  | @touched position connection m m' ht hp hm htouch hsame =>
    obtain ⟨-, hin'⟩ := Position.inMessage_of_next hp (stage_of_touches ht)
    have hcurrent := Session.current?_replaceLast { s with position, connection }
      (hsame.verdict.trans (Session.verdict_of_current? hm))
    refine ⟨Session.settled_replaceLast hs m', fun hne _ => ?_, fun _ => ?_, fun heq => ?_⟩
    · rw [hcurrent, Session.position_replaceLast, hin']
      simpa using hne
    · rw [hcurrent]
      rfl
    · rw [Session.position_replaceLast, hin', heq]
      rfl
  | abandoned habort =>
    obtain ⟨hsettled, hcoherent⟩ := Session.coherent_abort hs
    subst habort
    refine ⟨hsettled, fun _ => hcoherent, fun h => ?_, fun h => ?_⟩
    · cases h
    · cases h

end Callback.Effect

/-- What a `Task` expects of the session `s` that it works on. -/
def Task.Expects (s : Session) : Task σ → Prop
  | asking .. | gating .. | gated .. => s.Coherent ∧ s.current?.isSome = true
  | complete _ _ ctx | judging _ _ ctx _ => s.Awaits ctx.message.id
  | ruled r => s.Awaits r.ctx.message.id
  | called .. | concluded .. | told .. | interrupted .. => s.Coherent

/-- What a callback that has come as far as `p` leaves of its session. -/
def Progress.Leaves (s : Session) (p : Progress σ) : Prop :=
  match p.task? with
  | some task => task.Expects s
  | none => s.Coherent

/-- The callback has not just failed for want of a message. -/
def Progress.IsClean (p : Progress σ) : Prop :=
  ∀ stage id stage', p ≠ .failed stage id (.noMessage stage')

namespace Task

theorem Expects.congr {s s' : Session} (h : s.SameCourse s') {task : Task σ}
    (he : task.Expects s) : task.Expects s' := by
  have hawaits : ∀ id, s.Awaits id → s'.Awaits id := by
    intro id hid
    rw [Session.Awaits, h.position, h.current?_eq]
    exact hid
  cases task with
  | asking _ _ _ | gating _ _ _ _ _ _ | gated _ _ _ _ =>
    refine ⟨h.coherent he.1, ?_⟩
    rw [h.current?_eq]
    exact he.2
  | complete _ _ _ | judging _ _ _ _ | ruled _ => exact hawaits _ he
  | called _ _ | concluded _ _ | told _ _ | interrupted _ _ _ => exact h.coherent he

theorem expects_follow {s : Session} {c : Callback} (heom : c.stage ≠ .eom → s.Coherent)
    (htouch : c.touches = true → s.current?.isSome = true)
    (hposition : c.stage = .eom → s.position.inMessage = false) :
    (Filter.follow s c : Progress σ).Leaves s ∧ (Filter.follow s c : Progress σ).IsClean := by
  unfold Filter.follow
  split
  · next arg rest =>
    refine ⟨⟨heom ?_, htouch rfl⟩, ?_⟩
    · rintro ⟨⟩
    · rintro stage id stage' ⟨⟩
  · next q =>
    obtain ⟨m, hm⟩ := Option.isSome_iff_exists.1 (htouch rfl)
    rw [hm]
    refine ⟨⟨hposition rfl, m, hm, rfl⟩, ?_⟩
    rintro stage id stage' ⟨⟩
  · next hne =>
    refine ⟨heom fun hstage => ?_, ?_⟩
    · obtain ⟨q, hq⟩ := Callback.eom_of_stage hstage
      exact hne q hq
    · rintro stage id stage' ⟨⟩

/-- A task that finds what it `Expects` leaves what the next one expects. -/
theorem expects_outcome {f : Filter σ} {st : FilterState σ} {id : Uuid} {s s' : Session}
    {task : Task σ} {p : Progress σ} (h : task.Outcome f st id s p s') (hs : s.Settled)
    (he : task.Expects s) : s'.Settled ∧ p.Leaves s' ∧ p.IsClean := by
  cases h with
  | failed hc heffect =>
    obtain ⟨hs', hcoherent, hclean⟩ := heffect.coherent_of_failed hs he
    refine ⟨hs', hcoherent, ?_⟩
    rintro stage i stage' ⟨⟩
    exact hclean stage' rfl
  | followed hc heffect =>
    obtain ⟨hs', heom, htouch, hposition⟩ := heffect.coherent_of_followed hs he
    exact ⟨hs', expects_follow heom htouch hposition⟩
  | decided hid hq | asked hid hq =>
    refine ⟨hs, ?_, by rintro stage i stage' ⟨⟩⟩
    cases task with
    | asking _ _ _ | gating _ _ _ _ _ _ => exact he
    | _ => cases hq
  | panicked hid hq =>
    refine ⟨hs, ?_, by rintro stage i stage' ⟨⟩⟩
    cases task with
    | asking _ _ _ | gating _ _ _ _ _ _ => exact he.1
    | _ => cases hq
  | closed | noted _ | handed _ | answered => exact ⟨hs, he, by rintro stage i stage' ⟨⟩⟩
  | refused _ => exact ⟨hs, he.1, by rintro stage i stage' ⟨⟩⟩
  | @accepted connection recipient answer m hm =>
    refine ⟨Session.settled_replaceLast hs _, fun hne => ?_, by rintro stage i stage' ⟨⟩⟩
    have hin := he.1 hne
    rw [hm] at hin
    -- the recipient is all that changes: the message stays open
    have hopen := Session.verdict_of_current? hm
    rw [Session.current?_replaceLast s (by exact hopen)]
    exact hin
  | missed hm =>
    have hsome := he.2
    rw [hm] at hsome
    cases hsome
  | awaited hid hmatter hv hj | judged hid hmatter hv =>
    refine ⟨hs, ?_, by rintro stage i stage' ⟨⟩⟩
    cases task with
    | complete _ _ _ | judging _ _ _ _ =>
      cases hmatter
      exact he
    | _ => cases hmatter
  | @concluded r m headers hr hm hid hl =>
    obtain ⟨hin, -⟩ := he
    refine ⟨Session.settled_replaceLast hs _, fun _ => ?_, by rintro stage i stage' ⟨⟩⟩
    -- the message has its verdict, as the position has been saying since the message was complete
    rw [Session.position_replaceLast, hin, Session.current?_replaceLast_finalized s (by simp)]
    simp
  | lost hr hm =>
    -- with one callback at a time the message that was judged is still the open one
    obtain ⟨-, m, hcurrent, hid⟩ := he
    exact absurd hid (hm m hcurrent)
  | ended _ => exact ⟨hs, fun hne => absurd rfl hne, by rintro stage i stage' ⟨⟩⟩

end Task

/-! ### Runs -/

namespace Traffic

/-- No callback on the session `id` is under way. -/
def IsIdle (T : Traffic σ) (id : Uuid) : Prop :=
  ∀ thread ∈ T.threads, thread.session = some id → thread.progress.task? = none

instance (T : Traffic σ) (id : Uuid) : Decidable (T.IsIdle id) :=
  inferInstanceAs (Decidable (∀ thread ∈ T.threads, thread.session = some id →
    thread.progress.task? = none))

/-- A callback is taken only when the session `IsIdle`: the one before it is over. -/
def Admits (T : Traffic σ) : Move σ → Prop
  | .call (some id) _ => T.IsIdle id
  | _ => True

instance (T : Traffic σ) : (m : Move σ) → Decidable (T.Admits m)
  | .call (some id) _ => inferInstanceAs (Decidable (T.IsIdle id))
  | .call none _ | .connect .. | .go _ | .prune _ | .overrideConfig .. | .elsewhere _ =>
    .isTrue trivial

/-- Moves in which each callback is over before the next one on the same session: every move is one that
the traffic `Admits`. -/
def Sequential (f : Filter σ) (T : Traffic σ) : List (Move σ) → Prop
  | [] => True
  | m :: rest => T.Admits m ∧ Sequential f (T.move f m) rest

/-- Sessions as the callbacks on them expect them to be: `Settled`, `Coherent` while idle, and with one
callback at most under way. -/
structure InOrder (T : Traffic σ) : Prop where
  settled : ∀ id s, T.state.sessions.held? id = some s → s.Settled
  idle : ∀ id s, T.state.sessions.held? id = some s → T.IsIdle id → s.Coherent
  busy : ∀ (i : Nat) (thread : Thread σ) (task : Task σ) (id : Uuid) (s : Session),
    T.threads[i]? = some thread → thread.progress.task? = some task → thread.session = some id →
    T.state.sessions.held? id = some s → task.Expects s
  single : ∀ (i j : Nat) (t u : Thread σ) (id : Uuid), T.threads[i]? = some t →
    T.threads[j]? = some u → t.session = some id → u.session = some id →
    t.progress.task? ≠ none → u.progress.task? ≠ none → i = j
  clean : ∀ e ∈ T.log, e.result.IsClean

theorem inOrder_start (st : FilterState σ) : (start st).InOrder := by
  constructor
  · rintro id s ⟨⟩
  · rintro id s ⟨⟩
  · intro i thread task id s hi
    simp [start] at hi
  · intro i j t u id hi
    simp [start] at hi
  · intro e he
    simp [start] at he

/-- A session that `IsIdle` after a callback has been taken was idle before. -/
theorem IsIdle.of_thread {T : Traffic σ} {thread : Thread σ} {id : Uuid}
    (h : ({ T with threads := T.threads ++ [thread] } : Traffic σ).IsIdle id) : T.IsIdle id :=
  fun t ht => h t (List.mem_append_left _ ht)

/-- A new callback on an idle session, or on none, keeps the traffic `InOrder`. -/
theorem inOrder_thread {T : Traffic σ} (hT : T.InOrder) {session : Option Uuid} {c : Callback}
    {p : Progress σ} (hidle : ∀ id, session = some id → T.IsIdle id)
    (hp : ∀ id s, session = some id → T.state.sessions.held? id = some s →
      ∀ task, p.task? = some task → s.Coherent → task.Expects s) :
    ({ T with threads := T.threads ++ [⟨session, c, p⟩] } : Traffic σ).InOrder := by
  constructor
  · exact hT.settled
  · intro id s hs hid
    exact hT.idle id s hs hid.of_thread
  · intro i thread task id s hi ht hsession hs
    rcases getElem?_concat_iff.1 hi with hi | ⟨-, rfl⟩
    · exact hT.busy i thread task id s hi ht hsession hs
    · exact hp id s hsession hs task ht (hT.idle id s hs (hidle id hsession))
  · intro i j t u id hi hj ht hu ht' hu'
    rcases getElem?_concat_iff.1 hi with hi | ⟨hi', rfl⟩ <;>
      rcases getElem?_concat_iff.1 hj with hj | ⟨hj', rfl⟩
    · exact hT.single i j t u id hi hj ht hu ht' hu'
    · exact absurd (hidle id hu t (List.mem_of_getElem? hi) ht) ht'
    · exact absurd (hidle id ht u (List.mem_of_getElem? hj) hu) hu'
    · rw [hi', hj']
  · exact hT.clean

/-- When a callback has gone on and a session `IsIdle`, the callback is over or on another session, and
the session was idle before but for that callback. -/
theorem IsIdle.of_set {T T' : Traffic σ} {i : Nat} {thread : Thread σ} {p : Progress σ}
    (hi : T.threads[i]? = some thread)
    (hthreads : T'.threads = T.threads.set i { thread with progress := p }) {id : Uuid}
    (h : T'.IsIdle id) :
    (thread.session = some id ∧ p.task? = none) ∨ (thread.session ≠ some id ∧ T.IsIdle id) := by
  have hafter : ∀ (j : Nat) (t : Thread σ),
      (T.threads.set i { thread with progress := p })[j]? = some t → t.session = some id →
      t.progress.task? = none := by
    intro j t hj
    exact h t (hthreads ▸ List.mem_of_getElem? hj)
  by_cases hsession : thread.session = some id
  · exact .inl ⟨hsession, hafter i _ ((getElem?_set_iff hi).2 (.inl ⟨rfl, rfl⟩)) hsession⟩
  · refine .inr ⟨hsession, fun t ht htid => ?_⟩
    obtain ⟨j, hj⟩ := List.getElem?_of_mem ht
    refine hafter j t ((getElem?_set_iff hi).2 (.inr ⟨?_, hj⟩)) htid
    rintro rfl
    rw [hi] at hj
    obtain rfl := Option.some.inj hj
    exact hsession htid

/-- In traffic that is `InOrder`, a callback that has gone on is still the only one under way on its
session. -/
theorem single_set {T : Traffic σ} (hT : T.InOrder) {i : Nat} {thread : Thread σ}
    {p : Progress σ} (hi : T.threads[i]? = some thread) (ht : thread.progress.task? ≠ none) :
    ∀ (j k : Nat) (t u : Thread σ) (id : Uuid),
      (T.threads.set i { thread with progress := p })[j]? = some t →
      (T.threads.set i { thread with progress := p })[k]? = some u → t.session = some id →
      u.session = some id → t.progress.task? ≠ none → u.progress.task? ≠ none → j = k := by
  intro j k t u id hj hk htid huid ht' hu'
  rcases (getElem?_set_iff hi).1 hj with ⟨rfl, rfl⟩ | ⟨-, hj⟩ <;>
    rcases (getElem?_set_iff hi).1 hk with ⟨rfl, rfl⟩ | ⟨-, hk⟩
  · rfl
  · exact hT.single i k thread u id hi hk htid huid ht hu'
  · exact hT.single j i t thread id hj hi htid huid ht' ht
  · exact hT.single j k t u id hj hk htid huid ht' hu'

/-- A session that has just connected is as callbacks expect it to be, and none is under way on it: the
traffic stays `InOrder`. -/
theorem inOrder_connected {T : Traffic σ} (hT : T.Sound) (hO : T.InOrder) {state : FilterState σ}
    {s : Session} (hid : s.id = Uuid.issued T.state.serial) (hposition : s.position = .connected)
    (hmessages : s.messages = []) (hsessions : state.sessions = T.state.sessions.insert s) :
    ({ T with state } : Traffic σ).InOrder := by
  have hfresh : s.id ∉ T.state.sessions.ids := hid ▸ hT.not_issued
  have hcoherent : s.Coherent := by
    intro _
    simp [hposition, Session.current?, hmessages, Position.inMessage]
  -- whatever is held is the new session, or was held before
  have hheld : ∀ {id x}, state.sessions.held? id = some x →
      (id = s.id ∧ x = s) ∨ T.state.sessions.held? id = some x := by
    intro id x hx
    rw [hsessions, SessionTable.held?_insert hfresh] at hx
    split at hx
    · next heq => exact .inl ⟨heq.symm, (Option.some.inj hx).symm⟩
    · exact .inr hx
  constructor
  case settled =>
    intro id x hx
    rcases hheld hx with ⟨-, rfl⟩ | hx
    · intro y hy
      rw [hmessages] at hy
      cases hy
    · exact hO.settled id x hx
  case idle =>
    intro id x hx hidle
    rcases hheld hx with ⟨-, rfl⟩ | hx
    · exact hcoherent
    · exact hO.idle id x hx hidle
  case busy =>
    intro i thread task id x hi ht hsession hx
    rcases hheld hx with ⟨rfl, rfl⟩ | hx
    · -- no callback can have found the session yet
      rcases hT.held i thread task hi ht with ⟨id', hmem, hid'⟩ | ⟨stage, reason, rfl⟩
      · rw [hid', Option.some.injEq] at hsession
        exact absurd (hsession ▸ hmem) hfresh
      · exact hcoherent
    · exact hO.busy i thread task id x hi ht hsession hx
  case single => exact hO.single
  case clean => exact hO.clean

/-- A callback goes on with its session, and leaves it as it or the next one expects it to be: the
traffic stays `InOrder`. -/
theorem inOrder_went {f : Filter σ} {T : Traffic σ} (hO : T.InOrder) {i : Nat} {thread : Thread σ}
    {task : Task σ} {progress : Progress σ} {state : FilterState σ} {id : Uuid} {s s' : Session}
    (hi : T.threads[i]? = some thread) (ht : thread.progress.task? = some task)
    (hid : thread.session = some id) (hs : T.state.sessions.held? id = some s)
    (ho : task.Outcome f T.state id s progress s')
    (hsessions : T.state.sessions.Replaces state.sessions s') :
    (T.extend ⟨i, task, T.state, progress, state⟩
      (T.threads.set i { thread with progress })).InOrder := by
  have hheld := held?_of_outcome hs ho hsessions
  obtain ⟨hsettled, hleaves, hclean⟩ :=
    Task.expects_outcome ho (hO.settled id s hs) (hO.busy i thread task id s hi ht hid hs)
  constructor
  case settled =>
    intro id' x hx
    rw [hheld] at hx
    split at hx
    · exact Option.some.inj hx ▸ hsettled
    · exact hO.settled id' x hx
  case idle =>
    intro id' x hx hidle
    rw [hheld] at hx
    -- on an idle session the callback is over, and what it leaves is coherent
    rcases IsIdle.of_set hi rfl hidle with ⟨hsession, hp⟩ | ⟨hsession, hidle⟩
    · rw [hid, Option.some.injEq] at hsession
      rw [if_pos hsession] at hx
      rw [Progress.Leaves, hp] at hleaves
      exact Option.some.inj hx ▸ hleaves
    · rw [if_neg fun h => hsession (hid.trans (congrArg some h))] at hx
      exact hO.idle id' x hx hidle
  case busy =>
    intro j t task' id' x hj ht' hsession hx
    rw [hheld] at hx
    rcases (getElem?_set_iff hi).1 hj with ⟨rfl, rfl⟩ | ⟨hne, hj⟩
    · rw [if_pos (Option.some.inj (hid.symm.trans hsession))] at hx
      rw [Progress.Leaves, ht'] at hleaves
      exact Option.some.inj hx ▸ hleaves
    · split at hx
      · next hidid =>
        -- it would be a second callback under way on the session
        subst hidid
        exact absurd (hO.single i j thread t id hi hj hid hsession (by simp [ht]) (by simp [ht'])) hne
      · exact hO.busy j t task' id' x hj ht' hsession hx
  case single => exact single_set hO hi (by simp [ht])
  case clean =>
    intro e he
    rcases List.mem_append.1 he with he | he
    · exact hO.clean e he
    · rw [List.mem_singleton.1 he]
      exact hclean

/-- A callback is answered and is over, and all sessions stay as they are: the traffic
stays `InOrder`. -/
theorem inOrder_answered {T : Traffic σ} (hO : T.InOrder) {i : Nat} {thread : Thread σ}
    {stage : Stage} {reason : Interruption} {outcome : Except Panic Answer} {state : FilterState σ}
    (hi : T.threads[i]? = some thread)
    (ht : thread.progress.task? = some (.interrupted stage thread.session reason))
    (hsessions : state.sessions = T.state.sessions) :
    (T.extend ⟨i, .interrupted stage thread.session reason, T.state, .done outcome, state⟩
      (T.threads.set i { thread with progress := .done outcome })).InOrder := by
  constructor
  case settled => exact fun id x hx => hO.settled id x (hsessions ▸ hx)
  case idle =>
    intro id x hx hidle
    rcases IsIdle.of_set hi rfl hidle with ⟨hsession, -⟩ | ⟨-, hidle⟩
    · exact hO.busy i thread _ id x hi ht hsession (hsessions ▸ hx)
    · exact hO.idle id x (hsessions ▸ hx) hidle
  case busy =>
    intro j t task id x hj ht' hsession hx
    rcases (getElem?_set_iff hi).1 hj with ⟨-, rfl⟩ | ⟨-, hj⟩
    · cases ht'
    · exact hO.busy j t task id x hj ht' hsession (hsessions ▸ hx)
  case single => exact single_set hO hi (by simp [ht])
  case clean =>
    intro e he
    rcases List.mem_append.1 he with he | he
    · exact hO.clean e he
    · rw [List.mem_singleton.1 he]
      rintro stage id stage' ⟨⟩

/-- Settings of sessions are replaced at most: the traffic stays `InOrder`. -/
theorem inOrder_aside {T : Traffic σ} (hO : T.InOrder) {state : FilterState σ}
    {g : Session → Session} (hg : ∀ s : Session, s.SameCourse (g s))
    (hsessions : state.sessions.all = T.state.sessions.all.map g) :
    ({ T with state } : Traffic σ).InOrder := by
  constructor
  case settled =>
    intro id x hx
    obtain ⟨s, hs, hsame⟩ := held?_of_aside hg hsessions hx
    exact hsame.settled (hO.settled id s hs)
  case idle =>
    intro id x hx hidle
    obtain ⟨s, hs, hsame⟩ := held?_of_aside hg hsessions hx
    exact hsame.coherent (hO.idle id s hs hidle)
  case busy =>
    intro i thread task id x hi ht hsession hx
    obtain ⟨s, hs, hsame⟩ := held?_of_aside hg hsessions hx
    exact (hO.busy i thread task id s hi ht hsession hs).congr hsame
  case single => exact hO.single
  case clean => exact hO.clean

/-- Every move that the traffic `Admits` keeps it `InOrder`. -/
theorem inOrder_of_moved {f : Filter σ} {T T' : Traffic σ} {m : Move σ} (hT : T.Sound)
    (hO : T.InOrder) (hm : T.Admits m) (h : Moved f T m T') : T'.InOrder := by
  cases h with
  | connected hid hposition hmessages hserial hsessions =>
    exact inOrder_connected hT hO hid hposition hmessages hsessions
  | @taken id c hid =>
    refine inOrder_thread hO (fun id' hid' => Option.some.inj hid' ▸ hm) ?_
    rintro id' s - - task ⟨⟩ hs
    exact hs
  | @replied session c reply hc =>
    refine inOrder_thread hO (fun id hid => ?_) ?_
    · cases hid
      exact hm
    · rintro id s - - task ⟨⟩
  | @unknown session c =>
    refine inOrder_thread hO (fun id hid => ?_) ?_
    · cases hid
      exact hm
    · rintro id s - - task ⟨⟩ hs
      exact hs
  | went hi ht hid hstep hs ho hsessions => exact inOrder_went hO hi ht hid hs ho hsessions
  | answered hi ht hstep hsessions => exact inOrder_answered hO hi ht hsessions
  | aside g hg hserial hsessions => exact inOrder_aside hO hg hsessions

/-- Traffic that is `Sequential` stays `InOrder`. -/
theorem inOrder_run (f : Filter σ) {T : Traffic σ} (hT : T.Sound) (hO : T.InOrder)
    {moves : List (Move σ)} (h : T.Sequential f moves) : (T.run f moves).InOrder := by
  induction moves generalizing T with
  | nil => exact hO
  | cons m rest ih =>
    have hmoved := moved_move f hT m
    exact ih (sound_of_moved hT hmoved) (inOrder_of_moved hT hO h.1 hmoved) h.2

end Traffic

/-- However sessions connect, are swept away and have their settings replaced, and whatever the
checkers do: as long as each callback is over before the next one on the same session, all messages of
a session but the last have a verdict. While nothing is under way on a session that has not failed, its
position tells exactly whether the last message is there and open. No callback ever fails for want of a
message. -/
theorem sequential_coherent (f : Filter σ) (st : FilterState σ) (moves : List (Traffic.Move σ))
    (h : (Traffic.start st).Sequential f moves) :
    (∀ s ∈ ((Traffic.start st).run f moves).state.sessions.live,
      (∀ m ∈ s.messages.dropLast, m.isFinalized = true) ∧
      (((Traffic.start st).run f moves).IsIdle s.id → s.position ≠ .failed →
        (s.position.inMessage = true ↔
          ∃ m, s.messages.getLast? = some m ∧ m.isFinalized = false))) ∧
    ∀ e ∈ ((Traffic.start st).run f moves).log, ∀ stage id stage',
      e.result ≠ .failed stage id (.noMessage stage') := by
  have hT := Traffic.sound_run f (Traffic.sound_start st) moves
  have hO := Traffic.inOrder_run f (Traffic.sound_start st) (Traffic.inOrder_start st) h
  refine ⟨fun s hs => ?_, hO.clean⟩
  have hheld := SessionTable.held?_of_mem hT.distinct (SessionTable.mem_all_of_mem_live hs)
  refine ⟨hO.settled s.id s hheld, fun hidle hfailed => ?_⟩
  rw [hO.idle s.id s hheld hidle hfailed, Option.isSome_iff_exists]
  exact exists_congr fun m => Session.current?_eq_some

/-- A session in which a client has been greeted and has begun a message. -/
def Traffic.begun : List (Traffic.Move Unit) :=
  [.connect none none none, .call (some (Uuid.issued 0)) (.helo "mx.example.org" {}), .go 0,
    .call (some (Uuid.issued 0)) (.envFrom ["<a@example.org>"] {}), .go 1]

theorem sequential_coherent_begun :
    (Traffic.start (.blank {})).Sequential .bare Traffic.begun ∧
    ∀ s ∈ ((Traffic.start (.blank {})).run .bare Traffic.begun).state.sessions.live,
      s.position ≠ .failed → (s.position.inMessage = true ↔
        ∃ m, s.messages.getLast? = some m ∧ m.isFinalized = false) := by
  have hseq : (Traffic.start (.blank {})).Sequential .bare Traffic.begun := by
    refine ⟨trivial, ?_, trivial, ?_, trivial, trivial⟩
    · unfold Traffic.Admits Traffic.IsIdle
      decide +kernel
    · unfold Traffic.Admits Traffic.IsIdle
      decide +kernel
  have hidle : ∀ s ∈ ((Traffic.start (.blank {})).run .bare Traffic.begun).state.sessions.live,
      ((Traffic.start (.blank {})).run .bare Traffic.begun).IsIdle s.id := by
    unfold Traffic.IsIdle
    decide +kernel
  exact ⟨hseq, fun s hs =>
    ((sequential_coherent .bare (.blank {}) Traffic.begun hseq).1 s hs).2 (hidle s hs)⟩

end MailFilter
