/-
What becomes of single messages in any traffic.

A message is given to the checkers once, since from then on the position of its session takes no more
parts of it; so a verdict finds the message that it belongs to still open, or it is not recorded. For
this no two messages may have an identifier in common, in whatever sessions they are.

* `apart_run`: messages have identifiers of their own, and none is given to the checkers twice;
* `recorded_run`: a verdict is recorded once, and stays on its message.
-/
import Mathlib.Data.List.Nodup
import MailFilter.Proofs.Traffic.Basic

namespace MailFilter

variable {σ : Type}

/-! ### What a task does to the messages of its session -/

/-- The identifiers of the messages of the session `s`. -/
def Session.messageIds (s : Session) : List Uuid :=
  s.messages.map (·.id)

namespace Session

variable {s : Session} {m m' : Message}

theorem messageIds_replaceLast (hm : s.current? = some m) (hid : m'.id = m.id) :
    (s.replaceLast m').messageIds = s.messageIds := by
  rw [messageIds, messageIds, messages_replaceLast]
  conv =>
    rhs
    rw [messages_of_current? hm]
  simp [hid]

theorem messageIds_abort (s : Session) :
    s.abort.2.messageIds = s.messageIds ∨ s.abort.2.messageIds = s.messageIds.dropLast := by
  unfold abort
  cases s.current? with
  | some m => exact .inr List.map_dropLast
  | none => exact .inl rfl

/-- A message that has a verdict is not the open one. -/
theorem mem_dropLast {open₀ : Message} (ho : s.current? = some open₀) (hm : m ∈ s.messages)
    (hv : m.verdict ≠ none) : m ∈ s.messages.dropLast := by
  rw [messages_of_current? ho] at hm
  rcases List.mem_append.1 hm with hm | hm
  · exact hm
  · rw [List.mem_singleton.1 hm] at hv
    exact absurd (verdict_of_current? ho) hv

theorem mem_abort (hm : m ∈ s.messages) (hv : m.verdict ≠ none) : m ∈ s.abort.2.messages := by
  unfold abort
  cases ho : s.current? with
  | some open₀ => exact mem_dropLast ho hm hv
  | none => exact hm

theorem mem_of_mem_abort (hm : m ∈ s.abort.2.messages) : m ∈ s.messages := by
  unfold abort at hm
  cases ho : s.current? with
  | some open₀ =>
    rw [ho] at hm
    exact List.dropLast_subset _ hm
  | none =>
    rw [ho] at hm
    exact hm

/-- Besides the last message `replaceLast` brings nothing new, and that one only if it has a verdict. -/
theorem mem_of_mem_replaceLast {last : Message} (hm : m ∈ (s.replaceLast last).messages)
    (hv : m.verdict ≠ none) (hlast : last.verdict = none) : m ∈ s.messages := by
  rcases List.mem_append.1 hm with hm | hm
  · exact List.dropLast_subset _ hm
  · rw [List.mem_singleton.1 hm] at hv
    exact absurd hlast hv

theorem inMessage_abort (s : Session) : s.abort.2.position.inMessage = false := by
  unfold abort
  cases s.current? <;> exact Position.inMessage_abort _

end Session

namespace Callback.Effect

variable {c : Callback} {message : Uuid} {now : Timestamp} {s s' : Session}
  {result : Except Failure Unit}

theorem messageIds_cases (h : c.Effect message now s result s') :
    s'.messageIds = s.messageIds ∨ s'.messageIds = s.messageIds.dropLast ∨
      s'.messageIds = s.messageIds ++ [message] := by
  cases h with
  | refused _ _ | greeted _ _ | missed _ _ _ => exact .inl rfl
  | begun _ _ => exact .inr (.inr (by simp [Session.messageIds, Message.new]))
  | touched ht hp ho htouch hs => exact .inl (Session.messageIds_replaceLast ho hs.id)
  | abandoned _ =>
    rcases s.messageIds_abort with h | h
    · exact .inl h
    · exact .inr (.inl h)

theorem mem_of_finalized (h : c.Effect message now s result s') {m : Message}
    (hm : m ∈ s.messages) (hv : m.verdict ≠ none) : m ∈ s'.messages := by
  cases h with
  | begun _ _ => exact List.mem_append_left _ hm
  | touched ht hp ho htouch hs => exact List.mem_append_left _ (Session.mem_dropLast ho hm hv)
  | abandoned _ => exact Session.mem_abort hm hv
  | refused _ _ | greeted _ _ | missed _ _ _ => exact hm

theorem mem_of_verdict (h : c.Effect message now s result s') {m : Message}
    (hm : m ∈ s'.messages) (hv : m.verdict ≠ none) : m ∈ s.messages := by
  cases h with
  | begun _ _ =>
    rcases List.mem_append.1 hm with hm | hm
    · exact hm
    · rw [List.mem_singleton.1 hm] at hv
      exact absurd rfl hv
  | touched ht hp ho htouch hs =>
    exact Session.mem_of_mem_replaceLast hm hv (hs.verdict.trans (Session.verdict_of_current? ho))
  | abandoned _ => exact Session.mem_of_mem_abort hm
  | refused _ _ | greeted _ _ | missed _ _ _ => exact hm

theorem current?_cases (h : c.Effect message now s result s') {m : Message}
    (hin : s'.position.inMessage = true) (hm : s'.current? = some m) :
    (s.position.inMessage = true ∧ ∃ m₀, s.current? = some m₀ ∧ m₀.id = m.id) ∨
      m.id = message := by
  cases h with
  | refused _ _ => exact .inl ⟨hin, m, hm, rfl⟩
  | greeted hstage hp =>
    obtain ⟨-, rfl⟩ := Position.next_helo hp
    cases hin
  | begun _ _ =>
    refine .inr ?_
    have hlast := (Session.current?_eq_some.1 hm).1
    rw [List.getLast?_concat, Option.some.injEq] at hlast
    rw [← hlast]
    rfl
  | missed ht hp ho =>
    have ho' : s.current? = some m := hm
    rw [ho] at ho'
    cases ho'
  | @touched position connection m₀ m' ht hp ho htouch hs =>
    rw [Session.current?_replaceLast _ (hs.verdict.trans (Session.verdict_of_current? ho))] at hm
    obtain rfl := Option.some.inj hm
    exact .inl ⟨(Position.inMessage_of_next hp (stage_of_touches ht)).1, m₀, ho, hs.id.symm⟩
  | abandoned _ =>
    rw [Session.inMessage_abort] at hin
    cases hin

end Callback.Effect

/-- Only the end of a message is followed by the task `complete`, which gives a message to the checkers:
the open one. -/
theorem Filter.follow_eq_complete {s : Session} {c : Callback} {i : Uuid} {config : Config}
    {ctx : CheckContext}
    (h : (Filter.follow s c : Progress σ) = .next (.complete i config ctx)) :
    c.stage = .eom ∧ i = s.id ∧ s.current? = some ctx.message := by
  unfold Filter.follow at h
  split at h
  · cases h
  · cases hm : s.current? with
    | none =>
      rw [hm] at h
      cases h
    | some m =>
      rw [hm] at h
      cases h
      exact ⟨rfl, rfl, rfl⟩
  · cases h

theorem Task.identifiers_called {c : Callback} (hc : c ≠ .close) (id : Uuid) :
    (Task.called id c : Task σ).identifiers = 1 := by
  cases c with
  | close => exact absurd rfl hc
  | _ => rfl

namespace Task.Outcome

variable {f : Filter σ} {st : FilterState σ} {id : Uuid} {s s' : Session} {task : Task σ}
  {p : Progress σ}

/-- The `messageIds` of a session stay, or the last is dropped, or a new one is added, whatever the
`Outcome` of a task. -/
theorem messageIds_cases (h : task.Outcome f st id s p s') :
    s'.messageIds = s.messageIds ∨ s'.messageIds = s.messageIds.dropLast ∨
      (task.identifiers = 1 ∧ s'.messageIds = s.messageIds ++ [Uuid.issued st.serial]) := by
  cases h with
  | failed hc he | followed hc he =>
    rcases he.messageIds_cases with h | h | h
    · exact .inl h
    · exact .inr (.inl h)
    · exact .inr (.inr ⟨identifiers_called hc id, h⟩)
  | accepted hm => exact .inl (Session.messageIds_replaceLast hm rfl)
  | concluded _ hm _ _ => exact .inl (Session.messageIds_replaceLast hm rfl)
  | _ => exact .inl rfl

theorem mem_messageIds (h : task.Outcome f st id s p s') {j : Uuid} (hj : j ∈ s'.messageIds) :
    j ∈ s.messageIds ∨ (task.identifiers = 1 ∧ j = Uuid.issued st.serial) := by
  rcases h.messageIds_cases with h | h | ⟨hone, h⟩
  · exact .inl (h ▸ hj)
  · exact .inl (List.dropLast_subset _ (h ▸ hj))
  · rcases List.mem_append.1 (h ▸ hj) with hj | hj
    · exact .inl hj
    · exact .inr ⟨hone, List.mem_singleton.1 hj⟩

/-- A message that has a verdict stays, whatever the `Outcome` of a task. -/
theorem mem_of_finalized (h : task.Outcome f st id s p s') {m : Message} (hm : m ∈ s.messages)
    (hv : m.verdict ≠ none) : m ∈ s'.messages := by
  cases h with
  | failed hc he | followed hc he => exact he.mem_of_finalized hm hv
  | accepted ho | concluded _ ho _ _ =>
    exact List.mem_append_left _ (Session.mem_dropLast ho hm hv)
  | _ => exact hm

/-- A verdict has been on its message before, or it is recorded now: the next task is `concluded`. -/
theorem mem_of_verdict (h : task.Outcome f st id s p s') {m : Message} {v : Verdict Float}
    (hm : m ∈ s'.messages) (hv : m.verdict = some v) :
    m ∈ s.messages ∨ ∃ r record, p = .next (.concluded r record) ∧ r.session = id ∧
      r.ctx.message.id = m.id ∧ r.verdict = v := by
  have hne : m.verdict ≠ none := by simp [hv]
  cases h with
  | failed hc he | followed hc he => exact .inl (he.mem_of_verdict hm hne)
  | accepted ho =>
    have hopen := Session.verdict_of_current? ho
    exact .inl (Session.mem_of_mem_replaceLast hm hne (by exact hopen))
  | @concluded r m₀ headers hr ho hid hl =>
    rcases List.mem_append.1 hm with hm | hm
    · exact .inl (List.dropLast_subset _ hm)
    · rw [List.mem_singleton.1 hm] at hv ⊢
      exact .inr ⟨r, _, rfl, hr, hid.symm, Option.some.inj hv⟩
  | _ => exact .inl hm

/-- The message that takes parts after a task is the one that took them before, or a new one with the
next identifier. -/
theorem current?_cases (h : task.Outcome f st id s p s') {m : Message}
    (hin : s'.position.inMessage = true) (hm : s'.current? = some m) :
    (s.position.inMessage = true ∧ ∃ m₀, s.current? = some m₀ ∧ m₀.id = m.id) ∨
      (task.identifiers = 1 ∧ m.id = Uuid.issued st.serial) := by
  cases h with
  | @failed c _ _ hc he | @followed c _ hc he =>
    rcases he.current?_cases hin hm with h | h
    · exact .inl h
    · exact .inr ⟨identifiers_called hc id, h⟩
  | @accepted _ _ _ m₀ ho =>
    have hopen := Session.verdict_of_current? ho
    rw [Session.current?_replaceLast s (by exact hopen)] at hm
    obtain rfl := Option.some.inj hm
    exact .inl ⟨hin, m₀, ho, rfl⟩
  | concluded hr ho hid hl =>
    rw [Session.current?_replaceLast_finalized s (by simp)] at hm
    cases hm
  | ended _ => cases hin
  | _ => exact .inl ⟨hin, m, hm, rfl⟩

/-- A message that is given to the checkers, in a task `complete`, has been taking parts until now. -/
theorem snapshot_eq (h : task.Outcome f st id s p s') {i : Uuid} {config : Config}
    {ctx : CheckContext} (hp : p = .next (.complete i config ctx)) :
    i = s'.id ∧ s.position.inMessage = true ∧ s'.position.inMessage = false ∧
      s'.current? = some ctx.message ∧ ∃ m, s.current? = some m ∧ m.id = ctx.message.id := by
  cases h with
  | followed hc he =>
    obtain ⟨hstage, hi, hcurrent⟩ := Filter.follow_eq_complete hp
    cases he with
    | @touched position connection m m' ht hpos ho htouch hs =>
      obtain ⟨hin, hin'⟩ := Position.inMessage_of_next hpos (Callback.stage_of_touches ht)
      rw [hstage] at hin'
      refine ⟨hi, hin, hin', hcurrent, m, ho, ?_⟩
      rw [Session.current?_replaceLast _ (hs.verdict.trans (Session.verdict_of_current? ho))]
        at hcurrent
      rw [← Option.some.inj hcurrent, hs.id]
    | greeted hstage' _ | begun hstage' _ =>
      rw [hstage] at hstage'
      cases hstage'
    | abandoned habort =>
      subst habort
      cases hstage
  | _ => cases hp

/-- A verdict, which a task `concluded` tells of, is recorded on the open message, which is the one that
has been judged. -/
theorem concluded_eq (h : task.Outcome f st id s p s') {r : Ruling} {record : MessageRecord}
    (hp : p = .next (.concluded r record)) :
    task = .ruled r ∧ r.session = id ∧ ∃ m headers, s.current? = some m ∧
      m.id = r.ctx.message.id ∧ s' = s.replaceLast { m with headers, verdict := some r.verdict } ∧
      record = ({ m with headers, verdict := some r.verdict } : Message).toRecord ∧
      (Header.Ranked m.headers → Header.lines headers = m.lines.applyAll (r.outstanding m)) := by
  cases h with
  | followed hc he =>
    unfold Filter.follow at hp
    split at hp
    · cases hp
    · split at hp <;> cases hp
    · cases hp
  | @concluded r' m headers hr hm hid hl =>
    cases hp
    exact ⟨rfl, hr, m, headers, hm, hid, rfl, rfl, hl⟩
  | _ => cases hp

end Task.Outcome

/-! ### Messages apart -/

namespace Traffic

/-- What an event gives to the checkers: a message as it is then, with the settings and the session
that it belongs to. -/
def Event.snapshot? (e : Event σ) : Option (Uuid × Config × CheckContext) :=
  match e.result with
  | .next (.complete id config ctx) => some (id, config, ctx)
  | _ => none

/-- The verdict that an event records, and the record of its message. -/
def Event.concluded? (e : Event σ) : Option (Ruling × MessageRecord) :=
  match e.result with
  | .next (.concluded r record) => some (r, record)
  | _ => none

/-- All that has been given to the checkers: `snapshot?` of the events. -/
def snapshots (T : Traffic σ) : List (Uuid × Config × CheckContext) :=
  T.log.filterMap Event.snapshot?

/-- All verdicts that have been recorded, with the records of their messages:
`concluded?` of the events. -/
def concluded (T : Traffic σ) : List (Ruling × MessageRecord) :=
  T.log.filterMap Event.concluded?

theorem Undisturbed.snapshots_eq {T T' : Traffic σ} (h : T.Undisturbed T') :
    T'.snapshots = T.snapshots := by
  refine h.filterMap_log fun e he => ?_
  obtain ⟨_, _, _, outcome, -, hresult⟩ := he
  rw [Event.snapshot?, hresult]

theorem Undisturbed.concluded_eq {T T' : Traffic σ} (h : T.Undisturbed T') :
    T'.concluded = T.concluded := by
  refine h.filterMap_log fun e he => ?_
  obtain ⟨_, _, _, outcome, -, hresult⟩ := he
  rw [Event.concluded?, hresult]

/-- The identifiers of the messages that have been given to the checkers, as the
`snapshots` have them. -/
def snapshotIds (T : Traffic σ) : List Uuid :=
  T.snapshots.map fun c => c.2.2.message.id

/-- Messages have identifiers of their own, none of them still to be given out, and none has been given
to the checkers twice, or while it takes parts: the `snapshotIds` are distinct. -/
structure Apart (T : Traffic σ) : Prop where
  issued : ∀ id s, T.state.sessions.held? id = some s → ∀ i ∈ s.messageIds,
    ∃ n < T.state.serial, i = Uuid.issued n
  nodup : ∀ id s, T.state.sessions.held? id = some s → s.messageIds.Nodup
  owner : ∀ id s id' s', T.state.sessions.held? id = some s →
    T.state.sessions.held? id' = some s' → ∀ i ∈ s.messageIds, i ∈ s'.messageIds → id = id'
  snapshotIssued : ∀ i ∈ T.snapshotIds, ∃ n < T.state.serial, i = Uuid.issued n
  snapshotNodup : T.snapshotIds.Nodup
  unjudged : ∀ id s m, T.state.sessions.held? id = some s → s.position.inMessage = true →
    s.current? = some m → m.id ∉ T.snapshotIds

theorem apart_start (st : FilterState σ) : (start st).Apart := by
  constructor
  · rintro id s ⟨⟩
  · rintro id s ⟨⟩
  · rintro id s id' s' ⟨⟩
  · rintro i ⟨⟩
  · exact List.nodup_nil
  · rintro id s m ⟨⟩

theorem Event.snapshot?_eq_some {e : Event σ} {id : Uuid} {config : Config} {ctx : CheckContext} :
    e.snapshot? = some (id, config, ctx) ↔ e.result = .next (.complete id config ctx) := by
  unfold snapshot?
  constructor
  · intro h
    split at h
    · next heq =>
      rw [heq]
      cases h
      rfl
    · cases h
  · intro h
    rw [h]

theorem snapshots_extend (T : Traffic σ) (e : Event σ) (threads : List (Thread σ)) :
    (T.extend e threads).snapshots = T.snapshots ++ e.snapshot?.toList := by
  simp only [snapshots, List.filterMap_append]
  cases h : e.snapshot? <;> simp [h]

theorem snapshotIds_extend (T : Traffic σ) (e : Event σ) (threads : List (Thread σ)) :
    (T.extend e threads).snapshotIds
      = T.snapshotIds ++ (e.snapshot?.map fun c => c.2.2.message.id).toList := by
  rw [snapshotIds, snapshots_extend, List.map_append]
  cases e.snapshot? <;> rfl

section

variable {f : Filter σ} {T : Traffic σ} {i : Nat} {threads : List (Thread σ)} {task : Task σ}
  {p : Progress σ} {state : FilterState σ} {id : Uuid} {s s' : Session}

/-- Only the open message of the session is new among the `snapshotIds`, and it takes no more parts. -/
theorem mem_snapshotIds_extend (ho : task.Outcome f T.state id s p s') {j : Uuid}
    (hj : j ∈ (T.extend ⟨i, task, T.state, p, state⟩ threads).snapshotIds) :
    j ∈ T.snapshotIds ∨ (s.position.inMessage = true ∧ s'.position.inMessage = false ∧
      ∃ m, s.current? = some m ∧ m.id = j) := by
  rw [snapshotIds_extend, List.mem_append, Option.mem_toList, Option.map_eq_some_iff] at hj
  rcases hj with hj | ⟨⟨i', config, ctx⟩, hc, rfl⟩
  · exact .inl hj
  · obtain ⟨-, hin, hin', -, h⟩ := ho.snapshot_eq (Event.snapshot?_eq_some.1 hc)
    exact .inr ⟨hin, hin', h⟩

/-- A message that is in a session after a task belongs to no other session, where
messages are `Apart`. -/
theorem owner_of_outcome (hA : T.Apart) (hs : T.state.sessions.held? id = some s)
    (ho : task.Outcome f T.state id s p s') {id' : Uuid} {x : Session}
    (hx : T.state.sessions.held? id' = some x) {j : Uuid} (hjx : j ∈ x.messageIds)
    (hj : j ∈ s'.messageIds) : id = id' := by
  rcases ho.mem_messageIds hj with hj | ⟨-, rfl⟩
  · exact hA.owner id s id' x hs hx j hj hjx
  · exact absurd rfl (Uuid.ne_issued (hA.issued id' x hx _ hjx))

theorem nodup_of_outcome (hA : T.Apart) (hs : T.state.sessions.held? id = some s)
    (ho : task.Outcome f T.state id s p s') : s'.messageIds.Nodup := by
  have hnodup := hA.nodup id s hs
  rcases ho.messageIds_cases with h | h | ⟨-, h⟩
  · rw [h]
    exact hnodup
  · rw [h]
    exact hnodup.sublist (List.dropLast_sublist _)
  · rw [h, List.nodup_append]
    refine ⟨hnodup, List.pairwise_singleton .., fun a ha b hb => ?_⟩
    rw [List.mem_singleton.1 hb]
    exact Uuid.ne_issued (hA.issued id s hs a ha)

/-- What is given to the checkers has not been given to them before: the `snapshotIds` stay distinct. -/
theorem snapshotNodup_of_outcome (hA : T.Apart) (hs : T.state.sessions.held? id = some s)
    (ho : task.Outcome f T.state id s p s') :
    (T.extend ⟨i, task, T.state, p, state⟩ threads).snapshotIds.Nodup := by
  rw [snapshotIds_extend]
  cases hc : (⟨i, task, T.state, p, state⟩ : Event σ).snapshot? with
  | none => simpa using hA.snapshotNodup
  | some c =>
    obtain ⟨-, hin, -, -, m, hm, hid⟩ := ho.snapshot_eq (Event.snapshot?_eq_some.1 hc)
    rw [Option.map_some, Option.toList_some, List.nodup_append]
    refine ⟨hA.snapshotNodup, List.pairwise_singleton .., fun a ha b hb heq => ?_⟩
    rw [List.mem_singleton.1 hb, ← hid] at heq
    exact hA.unjudged id s m hs hin hm (heq ▸ ha)

/-- The message that takes parts after a task is not among the `snapshotIds`. -/
theorem unjudged_of_outcome (hA : T.Apart) (hs : T.state.sessions.held? id = some s)
    (ho : task.Outcome f T.state id s p s') {m : Message} (hin : s'.position.inMessage = true)
    (hm : s'.current? = some m) :
    m.id ∉ (T.extend ⟨i, task, T.state, p, state⟩ threads).snapshotIds := by
  intro hj
  rcases mem_snapshotIds_extend ho hj with hj | ⟨-, hin', -⟩
  · rcases ho.current?_cases hin hm with ⟨hin₀, m₀, hm₀, hid₀⟩ | ⟨-, hid₀⟩
    · exact hA.unjudged id s m₀ hs hin₀ hm₀ (hid₀ ▸ hj)
    · exact Uuid.ne_issued (hA.snapshotIssued _ hj) hid₀
  · rw [hin'] at hin
    cases hin

/-- A task on a session keeps messages `Apart`. -/
theorem apart_of_outcome (hA : T.Apart)
    (hserial : state.serial = T.state.serial + task.identifiers)
    (hs : T.state.sessions.held? id = some s) (ho : task.Outcome f T.state id s p s')
    (hheld : ∀ id', state.sessions.held? id'
      = if id = id' then some s' else T.state.sessions.held? id') :
    (T.extend ⟨i, task, T.state, p, state⟩ threads).Apart := by
  have hold : ∀ j, (∃ n < T.state.serial, j = Uuid.issued n) →
      ∃ n < state.serial, j = Uuid.issued n := by
    rintro j ⟨n, hn, rfl⟩
    exact ⟨n, by omega, rfl⟩
  constructor
  · intro id' x hx j hj
    rw [hheld] at hx
    split at hx
    · obtain rfl := Option.some.inj hx
      rcases ho.mem_messageIds hj with hj | ⟨hone, rfl⟩
      · exact hold j (hA.issued id s hs j hj)
      · exact ⟨T.state.serial, by show T.state.serial < state.serial; omega, rfl⟩
    · exact hold j (hA.issued id' x hx j hj)
  · intro id' x hx
    rw [hheld] at hx
    split at hx
    · obtain rfl := Option.some.inj hx
      exact nodup_of_outcome hA hs ho
    · exact hA.nodup id' x hx
  · intro id₁ x₁ id₂ x₂ h₁ h₂ j hj₁ hj₂
    rw [hheld] at h₁ h₂
    -- one of the two may be the session of the task, which may have a new message
    by_cases hid₁ : id = id₁ <;> by_cases hid₂ : id = id₂
    · exact hid₁.symm.trans hid₂
    · rw [if_pos hid₁, Option.some.injEq] at h₁
      rw [if_neg hid₂] at h₂
      exact absurd (owner_of_outcome hA hs ho h₂ hj₂ (h₁ ▸ hj₁)) hid₂
    · rw [if_neg hid₁] at h₁
      rw [if_pos hid₂, Option.some.injEq] at h₂
      exact absurd (owner_of_outcome hA hs ho h₁ hj₁ (h₂ ▸ hj₂)) hid₁
    · rw [if_neg hid₁] at h₁
      rw [if_neg hid₂] at h₂
      exact hA.owner id₁ x₁ id₂ x₂ h₁ h₂ j hj₁ hj₂
  · intro j hj
    refine hold j ?_
    rcases mem_snapshotIds_extend ho hj with hj | ⟨-, -, m, hm, rfl⟩
    · exact hA.snapshotIssued j hj
    · exact hA.issued id s hs _ (List.mem_map_of_mem (Session.mem_of_current? hm))
  · exact snapshotNodup_of_outcome hA hs ho
  · intro id' x m hx hin hm hj
    rw [hheld] at hx
    split at hx
    · obtain rfl := Option.some.inj hx
      exact unjudged_of_outcome hA hs ho hin hm hj
    · next hne =>
      -- what has just been given to the checkers belongs to the session of the task
      rcases mem_snapshotIds_extend ho hj with hj | ⟨-, -, m₀, hm₀, hid₀⟩
      · exact hA.unjudged id' x m hx hin hm hj
      · refine hne (hA.owner id s id' x hs hx m₀.id ?_ ?_)
        · exact List.mem_map_of_mem (Session.mem_of_current? hm₀)
        · rw [hid₀]
          exact List.mem_map_of_mem (Session.mem_of_current? hm)

end

/-- A move that leaves messages `Undisturbed` keeps them `Apart`. -/
theorem Apart.of_undisturbed {T T' : Traffic σ} (hA : T.Apart) (h : T.Undisturbed T') :
    T'.Apart := by
  have hsnapshots : T'.snapshotIds = T.snapshotIds := by
    rw [snapshotIds, h.snapshots_eq]
    rfl
  -- a session that has come in has no messages, so whatever there is was there before
  have hids : ∀ {id s' j}, T'.state.sessions.held? id = some s' → j ∈ s'.messageIds →
      ∃ s, T.state.sessions.held? id = some s ∧ s.SameCourse s' ∧ j ∈ s.messageIds := by
    intro id s' j hs' hj
    rcases h.session id s' hs' with hnil | ⟨s, hs, hsame⟩
    · rw [Session.messageIds, hnil] at hj
      cases hj
    · refine ⟨s, hs, hsame, ?_⟩
      rw [Session.messageIds, hsame.messages] at hj
      exact hj
  have hserial := h.serial
  constructor
  · intro id s' hs' j hj
    obtain ⟨s, hs, -, hj⟩ := hids hs' hj
    obtain ⟨n, hn, rfl⟩ := hA.issued id s hs j hj
    exact ⟨n, by omega, rfl⟩
  · intro id s' hs'
    rw [Session.messageIds]
    rcases h.session id s' hs' with hnil | ⟨s, hs, hsame⟩
    · rw [hnil]
      exact List.nodup_nil
    · rw [hsame.messages]
      exact hA.nodup id s hs
  · intro id₁ x₁ id₂ x₂ h₁ h₂ j hj₁ hj₂
    obtain ⟨s₁, hs₁, -, hj₁⟩ := hids h₁ hj₁
    obtain ⟨s₂, hs₂, -, hj₂⟩ := hids h₂ hj₂
    exact hA.owner id₁ s₁ id₂ s₂ hs₁ hs₂ j hj₁ hj₂
  · rw [hsnapshots]
    intro j hj
    obtain ⟨n, hn, rfl⟩ := hA.snapshotIssued j hj
    exact ⟨n, by omega, rfl⟩
  · rw [hsnapshots]
    exact hA.snapshotNodup
  · rw [hsnapshots]
    intro id s' m hs' hin hm
    obtain ⟨s, hs, hsame, -⟩ := hids hs' (List.mem_map_of_mem (Session.mem_of_current? hm))
    rw [hsame.position] at hin
    rw [Session.current?_congr hsame.messages] at hm
    exact hA.unjudged id s m hs hin hm

/-- Every move keeps messages `Apart`. -/
theorem apart_of_moved {f : Filter σ} {T T' : Traffic σ} {m : Move σ} (hT : T.Sound)
    (hA : T.Apart) (h : Moved f T m T') : T'.Apart := by
  rcases h.undisturbed_or_went hT with h | ⟨i, _, task, p, state, id, s, s', -, -, hserial, hs, ho,
    hheld, rfl⟩
  · exact hA.of_undisturbed h
  · exact apart_of_outcome hA hserial hs ho hheld

theorem apart_run (f : Filter σ) (st : FilterState σ) (moves : List (Move σ)) :
    ((start st).run f moves).Apart :=
  run_induction (fun _ _ _ hT hA h => apart_of_moved hT hA h) (sound_start st) (apart_start st) moves

/-! ### Verdicts -/

/-- Each verdict has been recorded once, and the messages hold the verdicts that have been recorded, as
`concluded` lists them. -/
structure Recorded (T : Traffic σ) : Prop where
  once : (T.concluded.map fun c => c.1.ctx.message.id).Nodup
  kept : ∀ c ∈ T.concluded, ∃ s m, T.state.sessions.held? c.1.session = some s ∧
    m ∈ s.messages ∧ m.id = c.1.ctx.message.id ∧ m.verdict = some c.1.verdict
  source : ∀ id s, T.state.sessions.held? id = some s → ∀ m ∈ s.messages, ∀ v,
    m.verdict = some v →
    ∃ c ∈ T.concluded, c.1.session = id ∧ c.1.ctx.message.id = m.id ∧ c.1.verdict = v

theorem Event.concluded?_eq_some {e : Event σ} {r : Ruling} {record : MessageRecord} :
    e.concluded? = some (r, record) ↔ e.result = .next (.concluded r record) := by
  unfold concluded?
  constructor
  · intro h
    split at h
    · next heq =>
      rw [heq]
      cases h
      rfl
    · cases h
  · intro h
    rw [h]

theorem concluded_extend (T : Traffic σ) (e : Event σ) (threads : List (Thread σ)) :
    (T.extend e threads).concluded = T.concluded ++ e.concluded?.toList := by
  simp only [concluded, List.filterMap_append]
  cases h : e.concluded? <;> simp [h]

theorem recorded_start (st : FilterState σ) : (start st).Recorded := by
  constructor
  · exact List.nodup_nil
  · rintro c ⟨⟩
  · rintro id s ⟨⟩

/-- A task on a session keeps verdicts `Recorded`. -/
theorem recorded_of_outcome {f : Filter σ} {T : Traffic σ} {i : Nat} {threads : List (Thread σ)}
    {task : Task σ} {p : Progress σ} {state : FilterState σ} {id : Uuid} {s s' : Session}
    (hA : T.Apart) (hR : T.Recorded) (hs : T.state.sessions.held? id = some s)
    (ho : task.Outcome f T.state id s p s')
    (hheld : ∀ id', state.sessions.held? id'
      = if id = id' then some s' else T.state.sessions.held? id') :
    (T.extend ⟨i, task, T.state, p, state⟩ threads).Recorded := by
  constructor
  · rw [concluded_extend]
    cases hc : (⟨i, task, T.state, p, state⟩ : Event σ).concluded? with
    | none => simpa using hR.once
    | some c =>
      obtain ⟨-, hr, m, headers, hm, hid, -⟩ := ho.concluded_eq (Event.concluded?_eq_some.1 hc)
      rw [Option.toList_some, List.map_append, List.map_singleton, List.nodup_append]
      refine ⟨hR.once, List.pairwise_singleton .., fun a ha b hb heq => ?_⟩
      rw [List.mem_singleton.1 hb, ← hid] at heq
      obtain ⟨c₀, hc₀, rfl⟩ := List.mem_map.1 ha
      obtain ⟨s₀, m₀, hs₀, hm₀, hid₀, hv₀⟩ := hR.kept c₀ hc₀
      -- the open message would be one that has its verdict already
      have hmem := Session.mem_of_current? hm
      have hm₀m : m₀.id = m.id := hid₀.trans heq
      have hsame := hA.owner _ s₀ id s hs₀ hs m.id (hm₀m ▸ List.mem_map_of_mem hm₀)
        (List.mem_map_of_mem hmem)
      rw [hsame, hs, Option.some.injEq] at hs₀
      subst hs₀
      have heqm := List.inj_on_of_nodup_map (hA.nodup id s hs) hm₀ hmem hm₀m
      rw [heqm, Session.verdict_of_current? hm] at hv₀
      cases hv₀
  · intro c hc
    rw [concluded_extend, List.mem_append, Option.mem_toList] at hc
    rcases hc with hc | hc
    · -- a message with a verdict stays, also in the session of the task
      obtain ⟨s₀, m, hs₀, hm, hid, hv⟩ := hR.kept c hc
      by_cases hsession : id = c.1.session
      · rw [← hsession, hs, Option.some.injEq] at hs₀
        subst hs₀
        refine ⟨s', m, by rw [hheld, if_pos hsession], ?_, hid, hv⟩
        exact ho.mem_of_finalized hm (by simp [hv])
      · exact ⟨s₀, m, by rw [hheld, if_neg hsession, hs₀], hm, hid, hv⟩
    · obtain ⟨r, record⟩ := c
      obtain ⟨-, hr, m, headers, hm, hid, rfl, -⟩ :=
        ho.concluded_eq (Event.concluded?_eq_some.1 hc)
      refine ⟨_, { m with headers, verdict := some r.verdict }, by rw [hheld, if_pos hr.symm], ?_,
        hid, rfl⟩
      exact List.mem_append_right _ (List.mem_singleton.2 rfl)
  · intro id' x hx m hm v hv
    rw [concluded_extend]
    rw [hheld] at hx
    have hold : (∃ c ∈ T.concluded, c.1.session = id' ∧ c.1.ctx.message.id = m.id ∧
        c.1.verdict = v) → ∃ c ∈ T.concluded ++
          (⟨i, task, T.state, p, state⟩ : Event σ).concluded?.toList, c.1.session = id' ∧
          c.1.ctx.message.id = m.id ∧ c.1.verdict = v := by
      rintro ⟨c, hc, h⟩
      exact ⟨c, List.mem_append_left _ hc, h⟩
    split at hx
    · next hid' =>
      obtain rfl := Option.some.inj hx
      rcases ho.mem_of_verdict hm hv with hm | ⟨r, record, rfl, hr, hid, hv⟩
      · exact hold (hR.source id' s (hid' ▸ hs) m hm v hv)
      · exact ⟨(r, record), List.mem_append_right _ (List.mem_singleton.2 rfl), hr.trans hid', hid, hv⟩
    · exact hold (hR.source id' x hx m hm v hv)

/-- A move that leaves messages `Undisturbed` keeps verdicts `Recorded`. -/
theorem Recorded.of_undisturbed {T T' : Traffic σ} (hR : T.Recorded) (h : T.Undisturbed T') :
    T'.Recorded := by
  constructor
  · rw [h.concluded_eq]
    exact hR.once
  · rw [h.concluded_eq]
    intro c hc
    obtain ⟨s, m, hs, hm, hid, hv⟩ := hR.kept c hc
    obtain ⟨s', hs', hsame⟩ := h.kept _ s hs
    exact ⟨s', m, hs', by rw [hsame.messages]; exact hm, hid, hv⟩
  · rw [h.concluded_eq]
    intro id s' hs' m hm
    rcases h.session id s' hs' with hnil | ⟨s, hs, hsame⟩
    · rw [hnil] at hm
      cases hm
    · rw [hsame.messages] at hm
      exact hR.source id s hs m hm

/-- Every move keeps verdicts `Recorded`. -/
theorem recorded_of_moved {f : Filter σ} {T T' : Traffic σ} {m : Move σ} (hT : T.Sound)
    (hA : T.Apart) (hR : T.Recorded) (h : Moved f T m T') : T'.Recorded := by
  rcases h.undisturbed_or_went hT with h | ⟨i, _, task, p, state, id, s, s', -, -, -, hs, ho, hheld,
    rfl⟩
  · exact hR.of_undisturbed h
  · exact recorded_of_outcome hA hR hs ho hheld

theorem recorded_run (f : Filter σ) (st : FilterState σ) (moves : List (Move σ)) :
    ((start st).run f moves).Recorded := by
  have hboth : ((start st).run f moves).Apart ∧ ((start st).run f moves).Recorded :=
    run_induction (P := fun T => T.Apart ∧ T.Recorded)
      (fun _ _ _ hT hP h => ⟨apart_of_moved hT hP.1 h, recorded_of_moved hT hP.1 hP.2 h⟩)
      (sound_start st) ⟨apart_start st, recorded_start st⟩ moves
  exact hboth.2

end Traffic

end MailFilter
