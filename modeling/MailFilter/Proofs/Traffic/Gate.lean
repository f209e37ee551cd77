/-
The two steps of `RCPT TO`.

A session is not locked while a recipient is with the checkers. The second step looks up the message
that is open then and does not ask whether it is the one that was open at the first step, so a message
that has been abandoned in between can be followed by one that gets its recipients.

* `gated_step`: what the second step does to the sessions;
* `introduced_run`: every second step comes after its first one, and the open message stays the same
  unless one is begun or abandoned in between;
* `recipient_lands_iff`: when a recipient stays away from all other messages;
* `recipient_astray`: a recipient that does not.
-/
import MailFilter.Proofs.Traffic.Race

namespace MailFilter

variable {σ : Type}

/-- The open message of the session `id` that a callback holds. -/
def FilterState.openMessage? (st : FilterState σ) (id : Uuid) : Option Message :=
  (st.sessions.held? id).bind Session.current?

namespace Task

/-- The session and the recipient of `RCPT TO` between its two steps. -/
def gate? : Task σ → Option (Uuid × Address)
  | asking id _ recipient | gating id _ recipient _ _ _ | gated id _ recipient _ =>
    some (id, recipient)
  | _ => none

/-- The task abandons a message of the session `id`, or may begin one. -/
def reopens (id : Uuid) : Task σ → Bool
  | called i (.envFrom ..) | called i .abort => i = id
  | _ => false

end Task

/-! ### Messages that stay open -/

theorem Callback.Effect.messageIds_eq {c : Callback} {message : Uuid} {now : Timestamp}
    {s s' : Session} {result : Except Failure Unit} (h : c.Effect message now s result s')
    (hfrom : c.stage ≠ .envFrom) (habort : c ≠ .abort) : s'.messageIds = s.messageIds := by
  cases h with
  | refused _ _ | greeted _ _ | missed _ _ _ => rfl
  | begun hc _ => exact absurd hc hfrom
  | touched _ _ hm _ hs => exact Session.messageIds_replaceLast hm hs.id
  | abandoned hc => exact absurd hc habort

/-- `RCPT TO` goes on with a message that is open. -/
theorem Callback.Effect.current?_of_envRcpt {args : List String} {message : Uuid} {now : Timestamp}
    {s s' : Session} (h : (Callback.envRcpt args).Effect message now s (.ok ()) s') :
    ∃ m, s'.current? = some m := by
  cases h with
  | @touched position connection m m' _ _ hm _ hs =>
    exact ⟨m', Session.current?_replaceLast _ (hs.verdict.trans (Session.verdict_of_current? hm))⟩
  | greeted hstage _ | begun hstage _ => cases hstage
  | abandoned habort => cases habort

/-- The messages of a session are the same unless one is begun or abandoned: unless the task `reopens`
it. -/
theorem Task.Outcome.messageIds_eq {f : Filter σ} {st : FilterState σ} {id : Uuid} {s s' : Session}
    {task : Task σ} {p : Progress σ} (h : task.Outcome f st id s p s')
    (hr : task.reopens id = false) : s'.messageIds = s.messageIds := by
  have hcalled : ∀ c : Callback, (Task.called id c : Task σ).reopens id = false →
      c.stage ≠ .envFrom ∧ c ≠ .abort := by
    intro c hc
    cases c <;> simp_all [Task.reopens, Callback.stage]
  cases h with
  | failed _ he | followed _ he =>
    obtain ⟨hfrom, habort⟩ := hcalled _ hr
    exact he.messageIds_eq hfrom habort
  | accepted hm => exact Session.messageIds_replaceLast hm rfl
  | concluded _ hm _ _ => exact Session.messageIds_replaceLast hm rfl
  | _ => rfl

theorem Session.getLast?_messageIds {s : Session} {m : Message} (h : s.current? = some m) :
    s.messageIds.getLast? = some m.id := by
  rw [messageIds, List.getLast?_map, (current?_eq_some.1 h).1]
  rfl

namespace Traffic

/-! ### The second step -/

/-- All sessions are as they were before the event. -/
def Event.Spares (e : Event σ) : Prop :=
  ∀ id, e.after.sessions.held? id = e.before.sessions.held? id

/-- The recipient has been added to the message `m` that was open in the session `id`, and nothing else
has changed. -/
def Event.Adds (e : Event σ) (id : Uuid) (recipient : Address) (m : Message) : Prop :=
  ∃ s, e.before.sessions.held? id = some s ∧ s.current? = some m ∧
    ∀ id', e.after.sessions.held? id'
      = if id = id' then some (s.replaceLast { m with recipients := m.recipients ++ [recipient] })
        else e.before.sessions.held? id'

/-- The client is told that the recipient is accepted: the `answer` leads to the reply to proceed. -/
def Accepts (connection : Connection) (answer : RecipientVerdict) : Prop :=
  Reply.ofRecipient connection.allowListed answer.action answer.message = .proceed

instance (connection : Connection) (answer : RecipientVerdict) :
    Decidable (Accepts connection answer) :=
  inferInstanceAs (Decidable (_ = _))

/-- A recipient that an event adds, by `Adds`, is added to one message only, and the sessions are not as
before. -/
theorem Event.Adds.not_spares {e : Event σ} {id : Uuid} {recipient : Address} {m : Message}
    (h : e.Adds id recipient m) : ¬e.Spares ∧ e.before.openMessage? id = some m := by
  obtain ⟨s, hs, hm, hheld⟩ := h
  refine ⟨fun hspares => ?_, by rw [FilterState.openMessage?, hs, Option.bind_some, hm]⟩
  have hsame := hheld id
  rw [if_pos rfl, hspares, hs, Option.some.injEq] at hsame
  -- the open message would be one that it is an extension of
  have hopen := Session.verdict_of_current? hm
  have hcurrent := Session.current?_replaceLast s
    (m := { m with recipients := m.recipients ++ [recipient] }) (by exact hopen)
  rw [← hsame, hm, Option.some.injEq] at hcurrent
  have hlength := congrArg (fun m : Message => m.recipients.length) hcurrent
  simp at hlength

/-- The second step adds the recipient to the message that is open, if the client is told so: if it
`Accepts`. Else it changes nothing. -/
theorem gated_step {f : Filter σ} {e : Event σ} (he : e.Faithful f) {id : Uuid}
    {connection : Connection} {recipient : Address} {answer : RecipientVerdict}
    (ht : e.task = .gated id connection recipient answer) {s : Session}
    (hs : e.before.sessions.held? id = some s) :
    (∀ m, Accepts connection answer → s.current? = some m → e.Adds id recipient m) ∧
      (¬Accepts connection answer ∨ s.current? = none → e.Spares) := by
  obtain ⟨i, task, before, result, after⟩ := e
  obtain rfl : task = .gated id connection recipient answer := ht
  have hstep := he.step
  have hs : before.sessions.held? id = some s := hs
  rw [show f.step before (.gated id connection recipient answer)
    = Filter.gated id connection recipient answer before from rfl, Filter.gated] at hstep
  dsimp only at hstep
  -- whatever the session becomes, it does so in its place
  have hplace : ∀ s' : Session, s'.id = s.id → after = before.update s' → ∀ id',
      after.sessions.held? id' = if id = id' then some s' else before.sessions.held? id' := by
    rintro s' hid rfl id'
    rw [FilterState.update, SessionTable.held?_update, hid, SessionTable.id_of_held? hs]
    split
    · next h => rw [← h, hs]; rfl
    · rfl
  refine ⟨fun m haccepts hm => ?_, fun h => ?_⟩
  · rw [if_pos (by exact haccepts), Filter.locked_of_held hs] at hstep
    have hchange : SessionChange.acceptRecipient recipient s
        = (.ok (), s.replaceLast { m with recipients := m.recipients ++ [recipient] }) := by
      simp only [SessionChange.acceptRecipient, SessionChange.modifyCurrent,
        SessionChange.changeCurrent, hm, Change.whole, Message.addRecipient,
        Message.whenOpen_eq (Session.verdict_of_current? hm)]
    rw [hchange] at hstep
    exact ⟨s, hs, hm, hplace _ rfl (congrArg Prod.snd hstep).symm⟩
  · intro id'
    by_cases haccepts : Accepts connection answer
    · have hm : s.current? = none := h.resolve_left (not_not_intro haccepts)
      rw [if_pos (by exact haccepts), Filter.locked_of_held hs] at hstep
      have hchange : SessionChange.acceptRecipient recipient s = (.error (.noMessage .envRcpt), s) := by
        simp only [SessionChange.acceptRecipient, SessionChange.modifyCurrent,
          SessionChange.changeCurrent, hm]
      rw [hchange] at hstep
      rw [hplace s rfl (congrArg Prod.snd hstep).symm]
      split
      · next h => rw [← h, hs]
      · rfl
    · rw [if_neg (by exact haccepts)] at hstep
      obtain rfl : before = after := congrArg Prod.snd hstep
      rfl

/-! ### From the first step to the second -/

/-- The first step of `RCPT TO`: message `m` is open, and the recipient is to be put to the
checkers. -/
def Event.Asks (e : Event σ) (id : Uuid) (recipient : Address) (m : Message) : Prop :=
  ∃ arg rest connection, e.task = .called id (.envRcpt (arg :: rest)) ∧
    recipient = Address.ofArgument arg ∧ e.result = .next (.asking id connection recipient) ∧
    e.after.openMessage? id = some m

/-- After these events, callback `i` has a recipient that is not through with the checkers. The last
message of the session is the one that was open at the first step, unless one has been begun or
abandoned since. -/
def Introduced (log : List (Event σ)) (st : FilterState σ) (i : Nat) (id : Uuid)
    (recipient : Address) : Prop :=
  ∃ before e₀ since m₀ s, log = before ++ e₀ :: since ∧ e₀.thread = i ∧
    e₀.Asks id recipient m₀ ∧ st.sessions.held? id = some s ∧
    ((∀ e ∈ since, e.task.reopens id = false) → s.messageIds.getLast? = some m₀.id)

section

variable {f : Filter σ} {log : List (Event σ)} {st st' : FilterState σ} {i : Nat} {id : Uuid}
  {recipient : Address}

/-- Sessions keep their messages, and there may be an event that concerns none: the recipient stays
`Introduced`. -/
theorem Introduced.of_kept (h : Introduced log st i id recipient)
    (hkept : ∀ s, st.sessions.held? id = some s →
      ∃ s', st'.sessions.held? id = some s' ∧ s.SameCourse s') :
    Introduced log st' i id recipient := by
  obtain ⟨before, e₀, since, m₀, s, hlog, hi, hasks, hs, hlast⟩ := h
  obtain ⟨s', hs', hsame⟩ := hkept s hs
  refine ⟨before, e₀, since, m₀, s', hlog, hi, hasks, hs', ?_⟩
  rw [Session.messageIds, hsame.messages]
  exact hlast

/-- A recipient stays `Introduced` while another task is carried out. -/
theorem Introduced.concat (h : Introduced log st i id recipient) {e : Event σ}
    (hheld : ∀ s, st.sessions.held? id = some s → ∃ s', st'.sessions.held? id = some s' ∧
      (e.task.reopens id = false → s'.messageIds = s.messageIds)) :
    Introduced (log ++ [e]) st' i id recipient := by
  obtain ⟨before, e₀, since, m₀, s, rfl, hi, hasks, hs, hlast⟩ := h
  obtain ⟨s', hs', hids⟩ := hheld s hs
  refine ⟨before, e₀, since ++ [e], m₀, s', by simp, hi, hasks, hs', fun hall => ?_⟩
  rw [hids (hall e (by simp))]
  exact hlast fun e' he' => hall e' (List.mem_append_left _ he')

/-- What a task does to the `messageIds` of any session. -/
theorem messageIds_of_outcome {s s' : Session} {task : Task σ} {p : Progress σ}
    (hs : st.sessions.held? id = some s) (ho : task.Outcome f st id s p s')
    (hheld : ∀ id', st'.sessions.held? id'
      = if id = id' then some s' else st.sessions.held? id') (id' : Uuid) (x : Session)
    (hx : st.sessions.held? id' = some x) :
    ∃ x', st'.sessions.held? id' = some x' ∧
      (task.reopens id' = false → x'.messageIds = x.messageIds) := by
  rw [hheld]
  by_cases hid : id = id'
  · subst hid
    rw [hs, Option.some.injEq] at hx
    subst hx
    exact ⟨s', if_pos rfl, ho.messageIds_eq⟩
  · exact ⟨x, by rw [if_neg hid, hx], fun _ => rfl⟩

/-- What follows a task has a recipient, by `gate?`, just if the task had it, or is its first step: it is
`Introduced`. -/
theorem introduced_of_outcome {s s' : Session} {task task' : Task σ} {p : Progress σ}
    (hs : st.sessions.held? id = some s) (ho : task.Outcome f st id s p s')
    (hheld : ∀ id', st'.sessions.held? id'
      = if id = id' then some s' else st.sessions.held? id')
    (hbefore : ∀ recipient, task.gate? = some (id, recipient) → Introduced log st i id recipient)
    (hp : p.task? = some task') {id' : Uuid} (hgate : task'.gate? = some (id', recipient)) :
    Introduced (log ++ [⟨i, task, st, p, st'⟩]) st' i id' recipient := by
  have hquestion : ∀ {connection recipient'}, task.session? = some id →
      task.question? = some (connection, recipient') → task.gate? = some (id, recipient') := by
    intro connection recipient' hid hq
    cases task with
    | asking _ _ _ | gating _ _ _ _ _ _ =>
      cases hid
      cases hq
      rfl
    | _ => cases hq
  have hkept := messageIds_of_outcome hs ho hheld
  cases ho with
  | @followed c _ hc he =>
    unfold Filter.follow at hp ⊢
    split at hp
    · next arg rest =>
      cases hp
      cases hgate
      -- this is the first step: the message that is open now is the one to compare with later
      obtain ⟨m, hm⟩ := he.current?_of_envRcpt
      have hid : s'.id = id := he.id_eq.trans (SessionTable.id_of_held? hs)
      have hs' := hheld id
      rw [if_pos rfl] at hs'
      rw [hid]
      refine ⟨log, _, [], m, s', rfl, rfl, ⟨arg, rest, s'.connection, rfl, rfl, rfl, ?_⟩, hs',
        fun _ => Session.getLast?_messageIds hm⟩
      show st'.openMessage? id = some m
      rw [FilterState.openMessage?, hs', Option.bind_some, hm]
    · split at hp
      · cases hp
        cases hgate
      · cases hp
        cases hgate
    · cases hp
  | decided hid hq | asked hid hq =>
    cases hp
    cases hgate
    exact (hbefore _ (hquestion hid hq)).concat (hkept id)
  | closed | refused _ | accepted _ | handed _ | answered | ended _ => cases hp
  | failed _ _ | panicked _ _ | missed _ | awaited _ _ _ _ | judged _ _ _ | concluded _ _ _ _
  | lost _ _ | noted _ =>
    cases hp
    cases hgate

end

/-- Every recipient that is with the checkers, or comes from them, has come in by a first step: it has
been `Introduced`. -/
structure Attended (T : Traffic σ) : Prop where
  thread : ∀ (i : Nat) (thread : Thread σ) (task : Task σ) (id : Uuid) (recipient : Address),
    T.threads[i]? = some thread → thread.progress.task? = some task →
    task.gate? = some (id, recipient) → Introduced T.log T.state i id recipient
  event : ∀ (k : Nat) (e : Event σ) (id : Uuid) (recipient : Address), T.log[k]? = some e →
    e.task.gate? = some (id, recipient) →
    Introduced (T.log.take k) e.before e.thread id recipient

theorem attended_start (st : FilterState σ) : (start st).Attended := by
  constructor
  · intro i thread task id recipient hi
    simp [start] at hi
  · intro k e id recipient hk
    simp [start] at hk

/-- Sessions keep their messages, and there is a callback without a recipient at most: the traffic stays
`Attended`. -/
theorem Attended.of_kept {T T' : Traffic σ} (h : T.Attended) (hlog : T'.log = T.log)
    (hkept : ∀ id s, T.state.sessions.held? id = some s →
      ∃ s', T'.state.sessions.held? id = some s' ∧ s.SameCourse s')
    (hthreads : ∀ (i : Nat) (thread : Thread σ) (task : Task σ) (x : Uuid × Address),
      T'.threads[i]? = some thread → thread.progress.task? = some task → task.gate? = some x →
      T.threads[i]? = some thread) : T'.Attended := by
  constructor
  · intro i thread task id recipient hi ht hgate
    rw [hlog]
    exact (h.thread i thread task id recipient (hthreads i thread task _ hi ht hgate) ht
      hgate).of_kept (hkept id)
  · rw [hlog]
    exact h.event

/-- A task has been carried out, and the traffic stays `Attended`. -/
theorem Attended.extend {T : Traffic σ} (h : T.Attended) {i : Nat} {thread : Thread σ}
    {task : Task σ} {p : Progress σ} {state : FilterState σ} (hi : T.threads[i]? = some thread)
    (ht : thread.progress.task? = some task)
    (hkept : ∀ id s, T.state.sessions.held? id = some s → ∃ s',
      state.sessions.held? id = some s' ∧ (task.reopens id = false → s'.messageIds = s.messageIds))
    (hnext : ∀ task' id recipient, p.task? = some task' → task'.gate? = some (id, recipient) →
      Introduced (T.log ++ [⟨i, task, T.state, p, state⟩]) state i id recipient) :
    (T.extend ⟨i, task, T.state, p, state⟩
      (T.threads.set i { thread with progress := p })).Attended := by
  constructor
  · intro j thread' task' id recipient hj ht' hgate
    rcases (getElem?_set_iff hi).1 hj with ⟨rfl, rfl⟩ | ⟨-, hj⟩
    · exact hnext task' id recipient ht' hgate
    · exact (h.thread j thread' task' id recipient hj ht' hgate).concat (hkept id)
  · intro k e id recipient hk hgate
    rcases getElem?_concat_iff.1 hk with hold | ⟨rfl, rfl⟩
    · obtain ⟨hlt, -⟩ := List.getElem?_eq_some_iff.1 hold
      rw [List.take_append_of_le_length (Nat.le_of_lt hlt)]
      exact h.event k e id recipient hold hgate
    · rw [List.take_left]
      exact h.thread i thread task id recipient hi ht hgate

/-- Every move keeps `Attended`. -/
theorem attended_of_moved {f : Filter σ} {T T' : Traffic σ} {m : Move σ} (hT : T.Sound)
    (h : T.Attended) (hm : Moved f T m T') : T'.Attended := by
  have hsame : ∀ id s, T.state.sessions.held? id = some s →
      ∃ s', T.state.sessions.held? id = some s' ∧ s.SameCourse s' :=
    fun id s hs => ⟨s, hs, .refl s⟩
  have hthread : ∀ {thread : Thread σ},
      (∀ task, thread.progress.task? = some task → task.gate? = none) →
      ∀ (i : Nat) (t : Thread σ) (task : Task σ) (x : Uuid × Address),
        (T.threads ++ [thread])[i]? = some t → t.progress.task? = some task →
        task.gate? = some x → T.threads[i]? = some t := by
    intro thread hnone i t task x hi ht hgate
    rcases getElem?_concat_iff.1 hi with hi | ⟨-, rfl⟩
    · exact hi
    · rw [hnone task ht] at hgate
      cases hgate
  cases hm with
  | connected hid _ _ _ hsessions =>
    refine h.of_kept rfl (fun id x hx => ⟨x, ?_, .refl x⟩) (fun _ _ _ _ hi _ _ => hi)
    rw [hsessions, SessionTable.held?_insert (hid ▸ hT.not_issued), if_neg, hx]
    -- the new session has an identifier that none has had before
    rintro heq
    exact hT.not_issued (hid ▸ heq ▸ SessionTable.mem_ids_of_held? hx)
  | taken _ =>
    refine h.of_kept rfl hsame (hthread ?_)
    rintro task ⟨⟩
    rfl
  | replied _ =>
    refine h.of_kept rfl hsame (hthread ?_)
    rintro task ⟨⟩
  | unknown =>
    refine h.of_kept rfl hsame (hthread ?_)
    rintro task ⟨⟩
    rfl
  | @went i thread task p state id s s' hi ht hid hstep hs ho hsessions =>
    have hheld := held?_of_outcome hs ho hsessions
    refine h.extend hi ht (messageIds_of_outcome hs ho hheld) fun task' id' recipient hp hgate => ?_
    refine introduced_of_outcome hs ho hheld (fun recipient' hgate' => ?_) hp hgate
    exact h.thread i thread task id recipient' hi ht hgate'
  | answered hi ht _ hsessions =>
    refine h.extend hi ht (fun id s hs => ⟨s, hsessions ▸ hs, fun _ => rfl⟩) ?_
    rintro task' id recipient ⟨⟩
  | aside g hg _ hsessions =>
    refine h.of_kept rfl (fun id s hs => ⟨g s, ?_, hg s⟩) (fun _ _ _ _ hi _ _ => hi)
    rw [SessionTable.held?_of_map (fun s => (hg s).id) hsessions, hs]
    rfl

theorem attended_run (f : Filter σ) (st : FilterState σ) (moves : List (Move σ)) :
    ((start st).run f moves).Attended :=
  run_induction (fun _ _ _ hT h hm => attended_of_moved hT h hm) (sound_start st)
    (attended_start st) moves

/-! ### Where recipients land -/

/-- The recipient is added to the message `m₀` that was open at the first step, or no
session changes. -/
def Event.Lands (e : Event σ) (id : Uuid) (recipient : Address) (m₀ : Message) : Prop :=
  e.Spares ∨ ∃ m, m.id = m₀.id ∧ e.Adds id recipient m

/-- **A recipient lands in the message that was open when it came in, or nowhere**, by `Lands`, unless it
is accepted at a time when another message is open: then it lands in that one. So whatever goes on
between the two steps, it never lands in another message if none of the session has been begun or
abandoned. -/
theorem recipient_lands_iff (f : Filter σ) (st : FilterState σ) (moves : List (Move σ))
    {e : Event σ} (he : e ∈ ((start st).run f moves).log) {id : Uuid} {connection : Connection}
    {recipient : Address} {answer : RecipientVerdict}
    (ht : e.task = .gated id connection recipient answer) :
    ∃ before e₀ between after m₀,
      ((start st).run f moves).log = before ++ e₀ :: (between ++ e :: after) ∧
      e₀.thread = e.thread ∧ e₀.Asks id recipient m₀ ∧
      (e.Spares ∨ ∃ m, e.Adds id recipient m) ∧
      (e.Lands id recipient m₀ ↔ ¬(Accepts connection answer ∧
        ∃ m, e.before.openMessage? id = some m ∧ m.id ≠ m₀.id)) ∧
      ((∀ e' ∈ between, e'.task.reopens id = false) → e.Lands id recipient m₀) := by
  have hattended := attended_run f st moves
  have hfaithful := (traced_run f st moves).faithful e he
  generalize (start st).run f moves = T at he hattended
  obtain ⟨k, hk⟩ := List.getElem?_of_mem he
  obtain ⟨hlt, hget⟩ := List.getElem?_eq_some_iff.1 hk
  obtain ⟨before, e₀, between, m₀, s, hlog, hthread, hasks, hs, hlast⟩ :=
    hattended.event k e id recipient hk (by rw [ht]; rfl)
  obtain ⟨hadds, hspares⟩ := gated_step hfaithful ht hs
  have hopen : e.before.openMessage? id = s.current? := by
    rw [FilterState.openMessage?, hs, Option.bind_some]
  have hsplit : T.log = before ++ e₀ :: (between ++ e :: T.log.drop (k + 1)) := by
    calc T.log = T.log.take k ++ T.log.drop k := (List.take_append_drop k T.log).symm
      _ = (before ++ e₀ :: between) ++ e :: T.log.drop (k + 1) := by
        rw [hlog, List.drop_eq_getElem_cons hlt, hget]
      _ = before ++ e₀ :: (between ++ e :: T.log.drop (k + 1)) := by simp
  -- the second step finds an open message, or it changes nothing
  have hcases : e.Spares ∨ ∃ m, s.current? = some m ∧ Accepts connection answer ∧
      e.Adds id recipient m := by
    by_cases haccepts : Accepts connection answer
    · cases hm : s.current? with
      | none => exact .inl (hspares (.inr hm))
      | some m => exact .inr ⟨m, rfl, haccepts, hadds m haccepts hm⟩
    · exact .inl (hspares (.inl haccepts))
  have hiff : e.Lands id recipient m₀ ↔ ¬(Accepts connection answer ∧
      ∃ m, e.before.openMessage? id = some m ∧ m.id ≠ m₀.id) := by
    rw [hopen]
    constructor
    · rintro hlands ⟨haccepts, m, hm, hne⟩
      obtain ⟨hchanged, hbefore⟩ := (hadds m haccepts hm).not_spares
      rcases hlands with hspared | ⟨m', hid, hadded⟩
      · exact hchanged hspared
      · rw [hadded.not_spares.2, Option.some.injEq] at hbefore
        exact hne (hbefore ▸ hid)
    · intro hnot
      rcases hcases with hspared | ⟨m, hm, haccepts, hadded⟩
      · exact .inl hspared
      · exact .inr ⟨m, by_contra fun hne => hnot ⟨haccepts, m, hm, hne⟩, hadded⟩
  refine ⟨before, e₀, between, _, m₀, hsplit, hthread, hasks, ?_, hiff, fun hquiet => ?_⟩
  · rcases hcases with hspared | ⟨m, -, -, hadded⟩
    · exact .inl hspared
    · exact .inr ⟨m, hadded⟩
  · rw [hiff, hopen]
    rintro ⟨-, m, hm, hne⟩
    -- the last message of the session has been the same all the time
    have hid := (Session.getLast?_messageIds hm).symm.trans (hlast hquiet)
    exact hne (Option.some.inj hid)

/-- A checker that takes its time to accept a recipient. -/
def patient : Filter Unit where
  registry := ⟨[{
    name := "gate"
    gate := fun _ _ s => ({ delayMs := 100, outcome := .verdict .permit }, s) }]⟩
  maxAgeSecs := 900

/-- A message has been begun, and its first recipient is with the checker of `patient`. -/
def asked : List (Move Unit) :=
  [.connect none none none, .call (some (Uuid.issued 0)) (.envFrom ["<a@example.org>"] {}), .go 0,
    .call (some (Uuid.issued 0)) (.envRcpt ["<b@example.com>"]), .go 1, .go 1]

/-- If nothing else happens until the checker has answered, the recipient that was
`asked` about lands. -/
theorem recipient_lands_alone :
    let T := (start (.blank {})).run patient (asked ++ [.go 1, .go 1])
    ∃ e ∈ T.log, ∃ m₀, m₀.id = Uuid.issued 1 ∧
      e.task = .gated (Uuid.issued 0) {} (Address.ofArgument "<b@example.com>") .permit ∧
      e.Lands (Uuid.issued 0) (Address.ofArgument "<b@example.com>") m₀ := by
  intro T
  obtain ⟨e, hk, ht⟩ : ∃ e, T.log[4]? = some e ∧
      e.task = .gated (Uuid.issued 0) {} (Address.ofArgument "<b@example.com>") .permit :=
    ⟨_, by with_unfolding_all rfl, by with_unfolding_all rfl⟩
  have he := List.mem_of_getElem? hk
  -- there is one message only
  have hone : ∀ e ∈ T.log, ∀ m, e.before.openMessage? (Uuid.issued 0) = some m ∨
      e.after.openMessage? (Uuid.issued 0) = some m → m.id = Uuid.issued 1 := by
    have hall : ∀ e ∈ T.log,
        ((e.before.openMessage? (Uuid.issued 0)).all fun m => m.id = Uuid.issued 1) = true ∧
        ((e.after.openMessage? (Uuid.issued 0)).all fun m => m.id = Uuid.issued 1) = true := by
      decide +kernel
    rintro e he m (hm | hm)
    · simpa [hm] using (hall e he).1
    · simpa [hm] using (hall e he).2
  obtain ⟨before, e₀, between, after, m₀, hsplit, -, ⟨_, _, _, _, _, _, hm₀⟩, -, hiff, -⟩ :=
    recipient_lands_iff patient (.blank {}) _ he ht
  have he₀ : e₀ ∈ T.log := by
    rw [hsplit]
    simp
  have hid₀ := hone e₀ he₀ m₀ (.inr hm₀)
  refine ⟨e, he, m₀, hid₀, ht, hiff.2 ?_⟩
  rintro ⟨-, m, hm, hne⟩
  exact hne ((hone e he m (.inl hm)).trans hid₀.symm)

/-- While the recipient that was `asked` about is with the checker, its message is abandoned and the next
one is begun: that one gets the recipient. -/
theorem recipient_astray :
    let T := (start (.blank {})).run patient (asked ++
      [.call (some (Uuid.issued 0)) .abort, .go 2,
        .call (some (Uuid.issued 0)) (.envFrom ["<c@example.org>"] {}), .go 3, .go 1, .go 1])
    ∃ e₀ ∈ T.log, ∃ e ∈ T.log, ∃ m₀ m, e₀.thread = e.thread ∧
      e₀.Asks (Uuid.issued 0) (Address.ofArgument "<b@example.com>") m₀ ∧
      e.task = .gated (Uuid.issued 0) {} (Address.ofArgument "<b@example.com>") .permit ∧
      e.Adds (Uuid.issued 0) (Address.ofArgument "<b@example.com>") m ∧ m.id ≠ m₀.id := by
  intro T
  obtain ⟨e₀, hk₀, hthread₀, ht₀, hresult₀⟩ : ∃ e₀, T.log[1]? = some e₀ ∧ e₀.thread = 1 ∧
      e₀.task = .called (Uuid.issued 0) (.envRcpt ["<b@example.com>"]) ∧
      e₀.result = .next (.asking (Uuid.issued 0) {} (Address.ofArgument "<b@example.com>")) :=
    ⟨_, by with_unfolding_all rfl, rfl, by with_unfolding_all rfl, by with_unfolding_all rfl⟩
  obtain ⟨e, hk, hthread, ht⟩ : ∃ e, T.log[6]? = some e ∧ e.thread = 1 ∧
      e.task = .gated (Uuid.issued 0) {} (Address.ofArgument "<b@example.com>") .permit :=
    ⟨_, by with_unfolding_all rfl, rfl, by with_unfolding_all rfl⟩
  have he := List.mem_of_getElem? hk
  -- the two messages are the second and the fifth to get an identifier
  have hids : (T.log.map fun e => (e.before.openMessage? (Uuid.issued 0)).map (·.id))[6]?
        = some (some (Uuid.issued 4)) ∧
      (T.log.map fun e => (e.after.openMessage? (Uuid.issued 0)).map (·.id))[1]?
        = some (some (Uuid.issued 1)) := by
    decide +kernel
  rw [List.getElem?_map, List.getElem?_map, hk, hk₀] at hids
  obtain ⟨m, hm, hid⟩ := Option.map_eq_some_iff.1 (Option.some.inj hids.1)
  obtain ⟨m₀, hm₀, hid₀⟩ := Option.map_eq_some_iff.1 (Option.some.inj hids.2)
  obtain ⟨s, hs, hcurrent⟩ := Option.bind_eq_some_iff.1 hm
  have hadds := (gated_step ((traced_run patient (.blank {}) _).faithful e he) ht hs).1 m
    (by decide) hcurrent
  refine ⟨e₀, List.mem_of_getElem? hk₀, e, he, m₀, m, hthread₀.trans hthread.symm,
    ⟨_, _, _, ht₀, rfl, hresult₀, hm₀⟩, ht, hadds, ?_⟩
  rw [hid, hid₀]
  decide

end Traffic

end MailFilter
