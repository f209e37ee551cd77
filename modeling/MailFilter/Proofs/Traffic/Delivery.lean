/-
The headers that are recorded for a message, and those that it is delivered with.

What the mail server holds are the lines that it has sent to the filter for the message, with the
changes made that the end of the message is answered with. The lines that an open message has of them
are traced through all traffic: the position of its session tells up to when they grow, and from when
the checkers have the message nothing changes its headers until the verdict does.

* `gathered_run`: what the headers of messages are, in all traffic;
* `delivered_agrees_iff`: when the record has the headers that the message is delivered with.
-/
import MailFilter.Proofs.Message.Composing
import MailFilter.Proofs.Traffic.Race

namespace MailFilter

open Text Lines

variable {σ : Type}

/-! ### What a task does to the headers -/

/-- The message `m'` is as `m` was, as far as its headers are concerned. -/
structure Message.SameHeaders (m m' : Message) : Prop where
  headers : m'.headers = m.headers
  synthesizedId : m'.synthesizedId = m.synthesizedId

/-- The message `m'` is as `m` was, as far as its headers are concerned, but for the `line` that has been
added. -/
structure Message.Grows (line : Option (String × String)) (m m' : Message) : Prop where
  id : m'.id = m.id
  synthesizedId : m'.synthesizedId = m.synthesizedId
  ranked : Header.Ranked m.headers → Header.Ranked m'.headers
  lines : m'.lines = m.lines ++ line.toList

theorem Message.SameHeaders.grows {m m' : Message} (h : m.SameHeaders m') (hid : m'.id = m.id) :
    m.Grows none m' where
  id := hid
  synthesizedId := h.synthesizedId
  ranked := by
    rw [h.headers]
    exact fun hr => hr
  lines := by
    rw [lines, h.headers]
    exact (List.append_nil _).symm

namespace Callback

/-- The header line that a callback brings. -/
def line? : Callback → Option (String × String)
  | header key value => some (key, value)
  | _ => none

variable {m m' : Message} {hostname : String}

/-- A callback that does not end the message lets it grow by the `line?` that it brings. -/
theorem touch_grows {c : Callback} (hopen : m.verdict = none) (hc : c.stage ≠ .eom)
    (h : c.touch hostname m = (.ok (), m')) (hid : m'.id = m.id) : m.Grows c.line? m' := by
  have hsame : m.SameHeaders m' → m.Grows none m' := fun h => h.grows hid
  cases c with
  | header key value =>
    obtain ⟨headers, hadd, hlines, hr⟩ := Message.addHeader_eq hopen key value
    simp only [touch, Change.whole, hadd, Except.map] at h
    obtain rfl := (Prod.mk.inj h).2
    exact ⟨rfl, rfl, hr, hlines⟩
  | eoh queueId sasl =>
    obtain ⟨q, hq⟩ := Message.nameMessage_eq hopen queueId
    simp only [touch, Change.whole, hq] at h
    obtain rfl := (Prod.mk.inj h).2
    exact hsame ⟨rfl, rfl⟩
  | body chunk =>
    simp only [touch, Change.whole, Message.appendBody, Message.whenOpen_eq hopen] at h
    obtain rfl := (Prod.mk.inj h).2
    exact hsame ⟨rfl, rfl⟩
  | eom queueId => exact absurd rfl hc
  | helo _ _ | envFrom _ _ | envRcpt _ | abort | close =>
    obtain rfl := (Prod.mk.inj h).2
    exact hsame ⟨rfl, rfl⟩

/-- The end of a message leaves it `CompletedFrom` its lines. -/
theorem touch_completed {queueId : Option String} (hopen : m.verdict = none)
    (hr : Header.Ranked m.headers) (hs : m.synthesizedId = none)
    (h : (eom queueId).touch hostname m = (.ok (), m')) : m'.CompletedFrom m.lines := by
  obtain ⟨q, m₁, hensure, hcomplete⟩ := Message.completeMessage_eq hopen hostname queueId
  have hm' : m₁.2 = m' := (Prod.mk.inj (hcomplete.symm.trans h)).2
  subst hm'
  rcases Message.ensureMessageId_eq (m := { m with queueId := q }) hopen hostname with
    ⟨hv, hnone⟩ | ⟨hv, headers, hsome, hlines, hr'⟩
  · rw [hnone] at hensure
    cases hensure
    exact ⟨hr, .inl ⟨hv, rfl, hs⟩⟩
  · rw [hsome] at hensure
    cases hensure
    exact ⟨hr' hr, .inr ⟨hv, _, hlines, rfl⟩⟩

end Callback

namespace Traffic

/-- The header line that an event takes, and for which message. -/
def Event.line? (e : Event σ) : Option (Uuid × String × String) :=
  match e.task, e.result with
  | .called id (.header key value), .done _ =>
    ((e.before.sessions.held? id).bind Session.current?).map fun m => (m.id, key, value)
  | _, _ => none

/-- The header lines that have been taken for the message: those that the mail server has sent, by the
`log`. -/
def received (T : Traffic σ) (message : Uuid) : Lines :=
  T.log.filterMap fun e =>
    e.line?.bind fun line => if line.1 = message then some line.2 else none

theorem Event.line?_eq_some {e : Event σ} {line : Uuid × String × String} :
    e.line? = some line ↔ ∃ id key value outcome m,
      e.task = .called id (.header key value) ∧ e.result = .done outcome ∧
      (e.before.sessions.held? id).bind Session.current? = some m ∧ line = (m.id, key, value) := by
  unfold line?
  constructor
  · intro h
    split at h
    · next id key value outcome htask hresult =>
      obtain ⟨m, hm, rfl⟩ := Option.map_eq_some_iff.1 h
      exact ⟨id, key, value, outcome, m, htask, hresult, hm, rfl⟩
    · cases h
  · rintro ⟨id, key, value, outcome, m, htask, hresult, hm, rfl⟩
    rw [htask, hresult]
    exact Option.map_eq_some_iff.2 ⟨m, hm, rfl⟩

theorem Event.line?_of_next {i : Nat} {task : Task σ} {st state : FilterState σ}
    {p : Progress σ} (hp : ∀ outcome, p ≠ .done outcome) :
    (⟨i, task, st, p, state⟩ : Event σ).line? = none := by
  rw [Option.eq_none_iff_forall_ne_some]
  intro line hline
  obtain ⟨_, _, _, outcome, _, _, hresult, -⟩ := Event.line?_eq_some.1 hline
  exact hp outcome hresult

theorem Event.line?_of_called {i : Nat} {id : Uuid} {c : Callback} {st state : FilterState σ}
    {p : Progress σ} (hc : c.line? = none) :
    (⟨i, .called id c, st, p, state⟩ : Event σ).line? = none := by
  rw [Option.eq_none_iff_forall_ne_some]
  intro line hline
  obtain ⟨_, key, value, _, _, htask, -⟩ := Event.line?_eq_some.1 hline
  cases htask
  cases hc

/-- A callback that succeeds while the message `m` is open takes the `line?` that it brings. -/
theorem Event.line?_of_followed (i : Nat) {id : Uuid} {c : Callback} {st state : FilterState σ}
    {s s' : Session} {m : Message} (hs : st.sessions.held? id = some s) (hm : s.current? = some m) :
    (⟨i, .called id c, st, Filter.follow s' c, state⟩ : Event σ).line?.map (·.2) = c.line? := by
  cases c with
  | header key value =>
    show (((st.sessions.held? id).bind Session.current?).map fun m => (m.id, key, value)).map (·.2)
      = some (key, value)
    rw [hs, Option.bind_some, hm]
    rfl
  | _ =>
    rw [line?_of_called rfl]
    rfl

end Traffic

namespace Task.Outcome

variable {f : Filter σ} {st state : FilterState σ} {id : Uuid} {s s' : Session} {task : Task σ}
  {p : Progress σ}

/-- A header line is taken for the message that takes parts, if `line?` tells of one at all. -/
theorem line_cases (i : Nat) (h : task.Outcome f st id s p s')
    (hs : st.sessions.held? id = some s) {line : Uuid × String × String}
    (hline : (⟨i, task, st, p, state⟩ : Traffic.Event σ).line? = some line) :
    s.position.inMessage = true ∧ ∃ m, s.current? = some m ∧ m.id = line.1 := by
  obtain ⟨id', key, value, outcome, m, htask, hresult, hm, rfl⟩ := Traffic.Event.line?_eq_some.1 hline
  obtain rfl : task = .called id' (.header key value) := htask
  obtain rfl : p = .done outcome := hresult
  cases h with
  | followed hc he =>
    have hm : (st.sessions.held? id).bind Session.current? = some m := hm
    rw [hs, Option.bind_some] at hm
    cases he with
    | touched ht hp _ _ _ =>
      exact ⟨(Position.inMessage_of_next hp (Callback.stage_of_touches ht)).1, m, hm, rfl⟩
    | greeted hstage _ | begun hstage _ => cases hstage
    | abandoned habort => cases habort

/-- The message that takes parts after a task has got the `line?` that the task has taken, or it is a new
one. -/
theorem opened_cases (i : Nat) (h : task.Outcome f st id s p s')
    (hs : st.sessions.held? id = some s) {m' : Message} (hin : s'.position.inMessage = true)
    (hm' : s'.current? = some m') :
    (s.position.inMessage = true ∧ ∃ m, s.current? = some m ∧
      m.Grows ((⟨i, task, st, p, state⟩ : Traffic.Event σ).line?.map (·.2)) m') ∨
    (m'.id = Uuid.issued st.serial ∧ m'.headers = [] ∧ m'.synthesizedId = none ∧
      (⟨i, task, st, p, state⟩ : Traffic.Event σ).line? = none) := by
  -- a task that leaves the position, and the headers of the message, as they are
  have hstay : ∀ m, s.position.inMessage = true → s.current? = some m → m.SameHeaders m' →
      m'.id = m.id → (⟨i, task, st, p, state⟩ : Traffic.Event σ).line? = none →
      s.position.inMessage = true ∧ ∃ m, s.current? = some m ∧
        m.Grows ((⟨i, task, st, p, state⟩ : Traffic.Event σ).line?.map (·.2)) m' := by
    intro m hp hm hsame hid hline
    rw [hline]
    exact ⟨hp, m, hm, hsame.grows hid⟩
  have hrefl : m'.SameHeaders m' := ⟨rfl, rfl⟩
  cases h with
  | closed => exact .inl (hstay m' hin hm' hrefl rfl (Traffic.Event.line?_of_called rfl))
  | failed hc he =>
    cases he with
    | refused _ _ =>
      exact .inl (hstay m' hin hm' hrefl rfl (Traffic.Event.line?_of_next (by rintro outcome ⟨⟩)))
    | missed ht hp ho =>
      -- the callback has failed for want of an open message, and opens none
      have hcurrent : s.current? = some m' := hm'
      rw [ho] at hcurrent
      cases hcurrent
  | @followed c _ hc he =>
    cases he with
    | greeted _ hp =>
      obtain ⟨-, rfl⟩ := Position.next_helo hp
      cases hin
    | begun hstage hp =>
      have hlast := (Session.current?_eq_some.1 hm').1
      rw [List.getLast?_concat, Option.some.injEq] at hlast
      subst hlast
      refine .inr ⟨rfl, rfl, rfl, Traffic.Event.line?_of_called ?_⟩
      cases c <;> first | rfl | cases hstage
    | @touched position connection m m₁ ht hp ho htouch hsubject =>
      have hopen := Session.verdict_of_current? ho
      rw [Session.current?_replaceLast _ (hsubject.verdict.trans hopen)] at hm'
      obtain rfl := Option.some.inj hm'
      obtain ⟨hin₀, hposition⟩ := Position.inMessage_of_next hp (Callback.stage_of_touches ht)
      -- after the end of a message nothing takes parts
      have hne : c.stage ≠ .eom := by
        intro heq
        have hin' : position.inMessage = true := hin
        rw [hposition, heq] at hin'
        cases hin'
      refine .inl ⟨hin₀, m, ho, ?_⟩
      rw [Traffic.Event.line?_of_followed i hs ho]
      exact Callback.touch_grows hopen hne htouch hsubject.id
    | abandoned _ =>
      rw [Session.inMessage_abort] at hin
      cases hin
  | @accepted _ _ _ m ho =>
    have hopen := Session.verdict_of_current? ho
    rw [Session.current?_replaceLast s (by exact hopen)] at hm'
    obtain rfl := Option.some.inj hm'
    exact .inl (hstay m hin ho ⟨rfl, rfl⟩ rfl rfl)
  | concluded _ _ _ _ =>
    rw [Session.current?_replaceLast_finalized s (by simp)] at hm'
    cases hm'
  | ended _ => cases hin
  | refused _ | handed _ | answered => exact .inl (hstay m' hin hm' hrefl rfl rfl)
  | decided _ _ | panicked _ _ | asked _ _ | missed _ | awaited _ _ _ _ | judged _ _ _ | lost _ _
  | noted _ =>
    exact .inl (hstay m' hin hm' hrefl rfl (Traffic.Event.line?_of_next (by rintro outcome ⟨⟩)))

/-- A message without a verdict has the `SameHeaders` as before, unless it takes parts or is new. -/
theorem kept_cases (h : task.Outcome f st id s p s') {m' : Message} (hm' : m' ∈ s'.messages)
    (hv : m'.verdict = none) :
    (∃ m ∈ s.messages, m.verdict = none ∧ m'.id = m.id ∧ m.SameHeaders m') ∨
    (s.position.inMessage = true ∧ ∃ m, s.current? = some m ∧ m'.id = m.id) ∨
    m'.id = Uuid.issued st.serial := by
  have hstay : m' ∈ s.messages →
      ∃ m ∈ s.messages, m.verdict = none ∧ m'.id = m.id ∧ m.SameHeaders m' :=
    fun hm => ⟨m', hm, hv, rfl, rfl, rfl⟩
  cases h with
  | failed hc he =>
    cases he with
    | refused _ _ | missed _ _ _ => exact .inl (hstay hm')
  | followed hc he =>
    cases he with
    | greeted _ _ => exact .inl (hstay hm')
    | begun _ _ =>
      rcases List.mem_append.1 hm' with hm' | hm'
      · exact .inl (hstay hm')
      · rw [List.mem_singleton.1 hm']
        exact .inr (.inr rfl)
    | touched ht hp ho _ hsubject =>
      have hin := (Position.inMessage_of_next hp (Callback.stage_of_touches ht)).1
      rcases List.mem_append.1 hm' with hm' | hm'
      · exact .inl (hstay (List.dropLast_subset _ hm'))
      · rw [List.mem_singleton.1 hm']
        exact .inr (.inl ⟨hin, _, ho, hsubject.id⟩)
    | abandoned _ => exact .inl (hstay (Session.mem_of_mem_abort hm'))
  | accepted ho =>
    rcases List.mem_append.1 hm' with hm' | hm'
    · exact .inl (hstay (List.dropLast_subset _ hm'))
    · rw [List.mem_singleton.1 hm']
      exact .inl ⟨_, Session.mem_of_current? ho, Session.verdict_of_current? ho, rfl, rfl, rfl⟩
  | concluded _ _ _ _ =>
    rcases List.mem_append.1 hm' with hm' | hm'
    · exact .inl (hstay (List.dropLast_subset _ hm'))
    · rw [List.mem_singleton.1 hm'] at hv
      cases hv
  | _ => exact .inl (hstay hm')

/-- What is given to the checkers is the message that has been taking parts: it is `CompletedFrom` its
lines. -/
theorem completed_of_snapshot (h : task.Outcome f st id s p s') {i : Uuid} {config : Config}
    {ctx : CheckContext} (hp : p = .next (.complete i config ctx)) :
    ∃ m, s.current? = some m ∧ m.id = ctx.message.id ∧
      (Header.Ranked m.headers → m.synthesizedId = none → ctx.message.CompletedFrom m.lines) := by
  cases h with
  | followed hc he =>
    obtain ⟨hstage, -, hcurrent⟩ := Filter.follow_eq_complete hp
    obtain ⟨q, rfl⟩ := Callback.eom_of_stage hstage
    cases he with
    | greeted hstage' _ | begun hstage' _ => cases hstage'
    | abandoned habort => cases habort
    | touched ht _ ho htouch hsubject =>
      have hopen := Session.verdict_of_current? ho
      rw [Session.current?_replaceLast _ (hsubject.verdict.trans hopen)] at hcurrent
      obtain rfl := Option.some.inj hcurrent
      exact ⟨_, ho, hsubject.id.symm, fun hr hs => Callback.touch_completed hopen hr hs htouch⟩
  | _ => cases hp

end Task.Outcome

namespace Ruling

/-- What is `outstanding` for a message depends on no more than the Message-Id it has been given. -/
theorem outstanding_congr (r : Ruling) {m m' : Message} (h : m.SameHeaders m') :
    r.outstanding m' = r.outstanding m := by
  have hadded : ∀ mutation, m'.hasAdded mutation = m.hasAdded mutation := by
    intro mutation
    cases mutation with
    | add key value => rw [Message.hasAdded, Message.hasAdded, h.synthesizedId]
    | delete key index => rfl
  rw [outstanding, outstanding]
  exact List.filter_congr fun mutation _ => by rw [hadded]

end Ruling

namespace Traffic

/-! ### In all traffic -/

theorem received_extend (T : Traffic σ) (e : Event σ) (threads : List (Thread σ))
    (message : Uuid) :
    (T.extend e threads).received message = T.received message ++
      (e.line?.bind fun line => if line.1 = message then some line.2 else none).toList := by
  rw [received, received, List.filterMap_append]
  cases h : e.line?.bind fun line => if line.1 = message then some line.2 else none <;> simp [h]

/-- An event that takes no line for a message leaves what has been `received` for it. -/
theorem received_extend_other {T : Traffic σ} {e : Event σ} {threads : List (Thread σ)}
    {message : Uuid} (h : ∀ line, e.line? = some line → line.1 ≠ message) :
    (T.extend e threads).received message = T.received message := by
  rw [received_extend]
  cases hline : e.line? with
  | none => exact List.append_nil _
  | some line =>
    rw [Option.bind_some, if_neg (h line hline)]
    exact List.append_nil _

theorem Undisturbed.received_eq {T T' : Traffic σ} (h : T.Undisturbed T') (message : Uuid) :
    T'.received message = T.received message := by
  refine h.filterMap_log fun e he => ?_
  obtain ⟨stage, session, reason, _, htask, -⟩ := he
  have hline : e.line? = none := by
    rw [Event.line?, htask]
  rw [hline]
  rfl

/-- What the headers of messages are: the lines that have been `received`, for a message that takes
parts; those and a Message-Id, from when the checkers have it; and those after the changes that it has
not had yet, once it has its verdict. -/
structure Gathered (T : Traffic σ) : Prop where
  issued : ∀ message, T.received message ≠ [] → ∃ n < T.state.serial, message = Uuid.issued n
  opened : ∀ id s m, T.state.sessions.held? id = some s → s.position.inMessage = true →
    s.current? = some m →
    Header.Ranked m.headers ∧ m.synthesizedId = none ∧ m.lines = T.received m.id
  completed : ∀ c ∈ T.snapshots, c.2.2.message.CompletedFrom (T.received c.2.2.message.id)
  kept : ∀ id s, T.state.sessions.held? id = some s → ∀ m ∈ s.messages, m.verdict = none →
    ∀ c ∈ T.snapshots, c.2.2.message.id = m.id → c.2.2.message.SameHeaders m
  recorded : ∀ c ∈ T.concluded, c.2.id = c.1.ctx.message.id ∧
    Header.lines c.2.headers
      = c.1.ctx.message.lines.applyAll (c.1.outstanding c.1.ctx.message)

theorem mem_snapshots_of_mem_snapshotsOf {T : Traffic σ} {i : Nat}
    {c : Uuid × Config × CheckContext} (h : c ∈ T.snapshotsOf i) : c ∈ T.snapshots := by
  obtain ⟨e, he, hc⟩ := List.mem_filterMap.1 h
  exact List.mem_filterMap.2 ⟨e, List.mem_of_mem_filter he, hc⟩

theorem gathered_start (st : FilterState σ) : (start st).Gathered := by
  constructor
  · intro message h
    exact absurd rfl h
  · rintro id s m ⟨⟩
  · rintro c ⟨⟩
  · rintro id s ⟨⟩
  · rintro c ⟨⟩

section

variable {f : Filter σ} {T : Traffic σ} {i : Nat} {threads : List (Thread σ)} {task : Task σ}
  {p : Progress σ} {state : FilterState σ} {id : Uuid} {s s' : Session}

/-- No line is `received` for a message that the checkers have been given. -/
theorem received_of_given (hA : T.Apart) (hs : T.state.sessions.held? id = some s)
    (ho : task.Outcome f T.state id s p s') {message : Uuid} (hgiven : message ∈ T.snapshotIds) :
    (T.extend ⟨i, task, T.state, p, state⟩ threads).received message = T.received message := by
  refine received_extend_other fun line hline heq => ?_
  obtain ⟨hin, m, hm, hid⟩ := ho.line_cases i hs hline
  rw [heq] at hid
  exact hA.unjudged id s m hs hin hm (hid ▸ hgiven)

/-- Lines are `received` for messages with identifiers that have been given out. -/
theorem issued_of_received (hA : T.Apart) (hG : T.Gathered)
    (hs : T.state.sessions.held? id = some s) (ho : task.Outcome f T.state id s p s')
    {message : Uuid}
    (hne : (T.extend ⟨i, task, T.state, p, state⟩ threads).received message ≠ []) :
    ∃ n < T.state.serial, message = Uuid.issued n := by
  by_cases hnew : ∃ line, (⟨i, task, T.state, p, state⟩ : Event σ).line? = some line ∧
      line.1 = message
  · obtain ⟨line, hline, rfl⟩ := hnew
    obtain ⟨-, m, hm, hid⟩ := ho.line_cases i hs hline
    rw [← hid]
    exact hA.issued id s hs m.id (List.mem_map_of_mem (Session.mem_of_current? hm))
  · rw [received_extend_other fun line hline heq => hnew ⟨line, hline, heq⟩] at hne
    exact hG.issued message hne

/-- The message that takes parts after a task has the lines that have been `received` for it. -/
theorem opened_of_outcome (hG : T.Gathered) (hs : T.state.sessions.held? id = some s)
    (ho : task.Outcome f T.state id s p s') {m : Message} (hin : s'.position.inMessage = true)
    (hm : s'.current? = some m) :
    Header.Ranked m.headers ∧ m.synthesizedId = none ∧
      m.lines = (T.extend ⟨i, task, T.state, p, state⟩ threads).received m.id := by
  rw [received_extend]
  rcases ho.opened_cases i hs hin hm with
    ⟨hin₀, m₀, hm₀, hgrows⟩ | ⟨hid, hheaders, hsynthesized, hline⟩
  · obtain ⟨hr, hsynthesized, hlines⟩ := hG.opened id s m₀ hs hin₀ hm₀
    refine ⟨hgrows.ranked hr, hgrows.synthesizedId.trans hsynthesized, ?_⟩
    rw [hgrows.lines, hlines, hgrows.id]
    cases hline : (⟨i, task, T.state, p, state⟩ : Event σ).line? with
    | none => rfl
    | some line =>
      obtain ⟨-, m₁, hm₁, hid⟩ := ho.line_cases i hs hline
      rw [hm₀, Option.some.injEq] at hm₁
      rw [Option.bind_some, if_pos (by rw [← hid, hm₁])]
      rfl
  · refine ⟨by rw [hheaders]; trivial, hsynthesized, ?_⟩
    have hnone : T.received m.id = [] := by
      refine Classical.byContradiction fun hne => ?_
      exact Uuid.ne_issued (hG.issued m.id hne) hid
    rw [hline, hnone, Message.lines, hheaders]
    rfl

/-- What the checkers are given is a message `CompletedFrom` the lines that have been
`received` for it. -/
theorem completed_of_outcome (hG : T.Gathered) (hs : T.state.sessions.held? id = some s)
    (ho : task.Outcome f T.state id s p s') {c : Uuid × Config × CheckContext}
    (hc : (⟨i, task, T.state, p, state⟩ : Event σ).snapshot? = some c) :
    c.2.2.message.CompletedFrom
      ((T.extend ⟨i, task, T.state, p, state⟩ threads).received c.2.2.message.id) := by
  obtain ⟨id', config, ctx⟩ := c
  have hp : p = .next (.complete id' config ctx) := Event.snapshot?_eq_some.1 hc
  obtain ⟨-, hin, -⟩ := ho.snapshot_eq hp
  obtain ⟨m, hm, hid, hcompleted⟩ := ho.completed_of_snapshot hp
  obtain ⟨hr, hsynthesized, hlines⟩ := hG.opened id s m hs hin hm
  have hsame : (T.extend ⟨i, task, T.state, p, state⟩ threads).received ctx.message.id
      = T.received m.id := by
    rw [← hid]
    refine received_extend_other fun line hline => ?_
    rw [Event.line?_of_next (by rw [hp]; rintro outcome ⟨⟩)] at hline
    cases hline
  rw [hsame, ← hlines]
  exact hcompleted hr hsynthesized

/-- What the checkers have of a message without a verdict are the `SameHeaders`, before
and after a task. -/
theorem kept_of_outcome (hA : T.Apart) (hG : T.Gathered)
    (hs : T.state.sessions.held? id = some s) (ho : task.Outcome f T.state id s p s')
    {m : Message} (hm : m ∈ s'.messages) (hv : m.verdict = none)
    {c : Uuid × Config × CheckContext} (hc : c ∈ T.snapshots) (hid : c.2.2.message.id = m.id) :
    c.2.2.message.SameHeaders m := by
  have hgiven : m.id ∈ T.snapshotIds := hid ▸ List.mem_map_of_mem hc
  -- what the checkers have takes no parts and is not new, so its headers have not been touched
  rcases ho.kept_cases hm hv with ⟨m₀, hm₀, hv₀, hid₀, hsame⟩ | ⟨hin, m₀, hm₀, hid₀⟩ | hid₀
  · have hkept := hG.kept id s hs m₀ hm₀ hv₀ c hc (hid.trans hid₀)
    exact ⟨hsame.headers.trans hkept.headers, hsame.synthesizedId.trans hkept.synthesizedId⟩
  · exact absurd (hid₀ ▸ hgiven) (hA.unjudged id s m₀ hs hin hm₀)
  · exact absurd hid₀ (Uuid.ne_issued (hA.snapshotIssued _ hgiven))

/-- A record has the headers that the checkers have been given, after the changes that
are `outstanding`. -/
theorem record_of_outcome (hG : T.Gathered) (hrests : task.RestsOn f (T.snapshotsOf i))
    (hs : T.state.sessions.held? id = some s) (ho : task.Outcome f T.state id s p s')
    {r : Ruling} {record : MessageRecord}
    (hc : (⟨i, task, T.state, p, state⟩ : Event σ).concluded? = some (r, record)) :
    record.id = r.ctx.message.id ∧
      Header.lines record.headers = r.ctx.message.lines.applyAll (r.outstanding r.ctx.message) := by
  obtain ⟨rfl, -, m, headers, hm, hid, -, rfl, hlines⟩ :=
    ho.concluded_eq (Event.concluded?_eq_some.1 hc)
  have hrests : r.RestsOn f (T.snapshotsOf i) := hrests
  have hgiven := mem_snapshots_of_mem_snapshotsOf hrests.snapshot
  have hkept := hG.kept id s hs m (Session.mem_of_current? hm) (Session.verdict_of_current? hm) _
    hgiven hid.symm
  have hranked : Header.Ranked m.headers := by
    rw [hkept.headers]
    exact (hG.completed _ hgiven).ranked
  refine ⟨hid, ?_⟩
  show Header.lines headers = _
  rw [hlines hranked, r.outstanding_congr hkept, Message.lines, hkept.headers]
  rfl

/-- A task on a session keeps what the headers of messages are: the traffic stays `Gathered`. -/
theorem gathered_of_outcome (hA : T.Apart)
    (hA' : (T.extend ⟨i, task, T.state, p, state⟩ threads).Apart) (hG : T.Gathered)
    (hrests : task.RestsOn f (T.snapshotsOf i))
    (hserial : state.serial = T.state.serial + task.identifiers)
    (hs : T.state.sessions.held? id = some s) (ho : task.Outcome f T.state id s p s')
    (hheld : ∀ id', state.sessions.held? id'
      = if id = id' then some s' else T.state.sessions.held? id') :
    (T.extend ⟨i, task, T.state, p, state⟩ threads).Gathered := by
  constructor
  · intro message hne
    obtain ⟨n, hn, rfl⟩ := issued_of_received hA hG hs ho hne
    exact ⟨n, by show n < state.serial; omega, rfl⟩
  · intro id' x m hx hin hm
    rw [hheld] at hx
    split at hx
    · obtain rfl := Option.some.inj hx
      exact opened_of_outcome hG hs ho hin hm
    · next hne =>
      obtain ⟨hr, hsynthesized, hlines⟩ := hG.opened id' x m hx hin hm
      refine ⟨hr, hsynthesized, ?_⟩
      rw [hlines, received_extend_other]
      -- a line that the task has taken is for a message of its own session
      intro line hline heq
      obtain ⟨-, m₁, hm₁, hid⟩ := ho.line_cases i hs hline
      refine hne (hA.owner id s id' x hs hx m₁.id ?_ ?_)
      · exact List.mem_map_of_mem (Session.mem_of_current? hm₁)
      · rw [hid, heq]
        exact List.mem_map_of_mem (Session.mem_of_current? hm)
  · intro c hc
    rw [snapshots_extend, List.mem_append, Option.mem_toList] at hc
    rcases hc with hc | hc
    · rw [received_of_given hA hs ho (List.mem_map_of_mem hc)]
      exact hG.completed c hc
    · exact completed_of_outcome hG hs ho hc
  · intro id' x hx m hm hv c hc hid
    rw [snapshots_extend, List.mem_append, Option.mem_toList] at hc
    rcases hc with hc | hc
    · rw [hheld] at hx
      split at hx
      · obtain rfl := Option.some.inj hx
        exact kept_of_outcome hA hG hs ho hm hv hc hid
      · exact hG.kept id' x hx m hm hv c hc hid
    · -- it has just been given to the checkers: it is the open message of its session
      obtain ⟨id₀, config, ctx⟩ := c
      obtain ⟨-, -, -, hcurrent, -⟩ := ho.snapshot_eq (Event.snapshot?_eq_some.1 hc)
      have hmem := Session.mem_of_current? hcurrent
      have hs' : state.sessions.held? id = some s' := by rw [hheld, if_pos rfl]
      have howner := hA'.owner id s' id' x hs' hx m.id (hid ▸ List.mem_map_of_mem hmem)
        (List.mem_map_of_mem hm)
      rw [← howner, hs', Option.some.injEq] at hx
      subst hx
      rw [List.inj_on_of_nodup_map (hA'.nodup id s' hs') hmem hm hid]
      exact ⟨rfl, rfl⟩
  · intro c hc
    rw [concluded_extend, List.mem_append, Option.mem_toList] at hc
    rcases hc with hc | hc
    · exact hG.recorded c hc
    · exact record_of_outcome hG hrests hs ho hc

end

/-- A move that leaves messages `Undisturbed` keeps what their headers are. -/
theorem Gathered.of_undisturbed {T T' : Traffic σ} (hG : T.Gathered) (h : T.Undisturbed T') :
    T'.Gathered := by
  -- a session that is new has no messages, and one that is not has those that it had
  have hserial := h.serial
  constructor
  · intro message hne
    rw [h.received_eq] at hne
    obtain ⟨n, hn, rfl⟩ := hG.issued message hne
    exact ⟨n, by omega, rfl⟩
  · intro id s' m hs' hin hm
    rw [h.received_eq]
    rcases h.session id s' hs' with hnil | ⟨s, hs, hsame⟩
    · have hmem := Session.mem_of_current? hm
      rw [hnil] at hmem
      cases hmem
    · rw [hsame.position] at hin
      rw [Session.current?_congr hsame.messages] at hm
      exact hG.opened id s m hs hin hm
  · rw [h.snapshots_eq]
    intro c hc
    rw [h.received_eq]
    exact hG.completed c hc
  · rw [h.snapshots_eq]
    intro id s' hs' m hm
    rcases h.session id s' hs' with hnil | ⟨s, hs, hsame⟩
    · rw [hnil] at hm
      cases hm
    · rw [hsame.messages] at hm
      exact hG.kept id s hs m hm
  · rw [h.concluded_eq]
    exact hG.recorded

/-- Every move keeps what the headers of messages are: the traffic stays `Gathered`. -/
theorem gathered_of_moved {f : Filter σ} {T T' : Traffic σ} {m : Move σ} (hT : T.Sound)
    (hA : T.Apart) (htraced : T.Traced f) (hG : T.Gathered) (h : Moved f T m T') :
    T'.Gathered := by
  have hA' := apart_of_moved hT hA h
  rcases h.undisturbed_or_went hT with h | ⟨i, thread, task, p, state, id, s, s', hi, ht, hserial, hs,
    ho, hheld, rfl⟩
  · exact hG.of_undisturbed h
  · exact gathered_of_outcome hA hA' hG (htraced.restsOn i thread task hi ht) hserial hs ho hheld

theorem gathered_run (f : Filter σ) (st : FilterState σ) (moves : List (Move σ)) :
    ((start st).run f moves).Gathered := by
  have hall : ((start st).run f moves).Apart ∧ ((start st).run f moves).Traced f ∧
      ((start st).run f moves).Gathered :=
    run_induction (P := fun T => T.Apart ∧ T.Traced f ∧ T.Gathered)
      (fun _ _ _ hT hP h =>
        ⟨apart_of_moved hT hP.1 h, traced_of_moved hP.2.1 h,
          gathered_of_moved hT hP.1 hP.2.1 hP.2.2 h⟩)
      (sound_start st) ⟨apart_start st, traced_start f st, gathered_start st⟩ moves
  exact hall.2.2

end Traffic

/-! ### Delivery -/

/-- Only a message that `delivers` tells of is answered with leave to proceed. -/
theorem Ruling.delivers_of_proceed {r : Ruling} (h : r.answer.reply = .proceed) :
    r.delivers = true := by
  cases hn : r.config.milter.noop with
  | true => simp [delivers, hn]
  | false =>
    simp only [answer, hn] at h
    cases ha : r.verdict.action with
    | permit => simp [delivers, ha]
    | reject | tempfail | error =>
      rw [ha] at h
      cases h

namespace Traffic

/-- When a message is delivered, the record of it has the headers that it is delivered with just if the
message came with a Message-Id, or none of the templates `Yields` one. -/
theorem delivered_agrees_iff (f : Filter σ) (st : FilterState σ) (moves : List (Move σ)) {i : Nat}
    {thread : Thread σ} {answer : Answer}
    (hi : ((start st).run f moves).threads[i]? = some thread)
    (hstage : thread.callback.stage = .eom) (hdone : thread.progress = .done (.ok answer))
    (hproceed : answer.reply = .proceed)
    (hthrough : (account (((start st).run f moves).eventsOf i)).isInterrupted = false) :
    ∃ r record, (account (((start st).run f moves).eventsOf i)).handed = [(r, record)] ∧
      answer = r.answer ∧
      ((∀ name, ((((start st).run f moves).received record.id).applyAll answer.mutations).values name
          = (Header.lines record.headers).values name) ↔
        (((start st).run f moves).received record.id).values "Message-Id" ≠ [] ∨
          ¬ r.composing.Yields "Message-Id" r.config.headers) := by
  have htraced := traced_run f st moves
  have hgathered := gathered_run f st moves
  have howes := htraced.owes i thread hi
  rw [hdone] at howes
  rcases howes with ⟨r, record, hanswer, haccount⟩ | haccount | ⟨hne, -⟩
  · obtain rfl := Except.ok.inj hanswer
    refine ⟨r, record, by rw [haccount], rfl, ?_⟩
    -- the event that has recorded the verdict
    have hmem : (r, record) ∈ (account (((start st).run f moves).eventsOf i)).recorded := by
      rw [haccount]
      exact List.mem_singleton.2 rfl
    obtain ⟨e, he, hc⟩ := List.mem_filterMap.1 hmem
    have hlog := List.mem_of_mem_filter he
    have hrests := htraced.ruling e hlog r record hc
    have hcompleted := hgathered.completed _ (mem_snapshots_of_mem_snapshotsOf hrests.snapshot)
    obtain ⟨hid, hlines⟩ := hgathered.recorded (r, record) (List.mem_filterMap.2 ⟨e, hlog, hc⟩)
    -- what the server is told and what the record has had done to it are composed from one list
    have hmutations : r.mutations = r.composing.compose r.config.headers := by
      rw [Ruling.mutations, if_pos (Ruling.delivers_of_proceed hproceed)]
    have hrecord : Header.lines record.headers = r.ctx.message.lines.applyAll
        ((r.composing.compose r.config.headers).filter fun change =>
          !r.ctx.message.hasAdded change) := by
      rw [hlines, Ruling.outstanding, hmutations]
    have hrecordId : record.id = r.ctx.message.id := hid
    rw [hrecord, hrecordId, show r.answer.mutations = r.mutations from rfl, hmutations]
    exact ComposeContext.compose_agrees_iff hcompleted rfl r.config.headers
  · rw [haccount] at hthrough
    cases hthrough
  · exact absurd hstage hne

/-! ### A replaced Message-Id -/

/-- The `Answer` of a callback that is over with one. -/
def Thread.answer? (thread : Thread σ) : Option Answer :=
  match thread.progress with
  | .done (.ok answer) => some answer
  | _ => none

theorem Thread.answer?_eq_some {thread : Thread σ} {answer : Answer} :
    thread.answer? = some answer ↔ thread.progress = .done (.ok answer) := by
  unfold answer?
  constructor
  · intro h
    split at h
    · next hdone =>
      rw [hdone, Option.some.inj h]
    · cases h
  · intro h
    rw [h]

/-- A filter that replaces the Message-Id of every message, and delivers them all. -/
def replacing : FilterState Unit :=
  .blank
    { hostname := "mx.example.com"
      headers := [{ key := "Message-Id", value := "<replaced@mx.example.com>", unique := true }]
      milter := { noop := true } }

/-- A message comes to the filter `replacing` its Message-Id, has none, and is delivered. -/
def withoutId : List (Move Unit) :=
  [.connect none none none, .call (some (Uuid.issued 0)) (.envFrom ["<a@example.org>"] {}), .go 0,
    .call (some (Uuid.issued 0)) (.envRcpt ["<b@example.com>"]), .go 1, .go 1, .go 1,
    .call (some (Uuid.issued 0)) (.header "Subject" "hi"), .go 2,
    .call (some (Uuid.issued 0)) (.eom (some "4AbC")), .go 3, .go 3, .go 3, .go 3, .go 3]

/-- The mail server is told to delete the Message-Id that the message `withoutId` does not have, and to
add both that of the template and that of the filter. -/
theorem answer_withoutId :
    (((start replacing).run .bare withoutId).threads[3]?.bind Thread.answer?) = some
      { reply := .proceed
        mutations := [.delete "Message-Id" 1, .add "Message-Id" "<replaced@mx.example.com>",
          .add "Message-Id" "<4AbC@mx.example.com>"] } := by
  decide +kernel

/-- The end of the message `withoutId` is over: it is the last callback of the four. -/
theorem thread_withoutId :
    ∃ thread, ((start replacing).run .bare withoutId).threads[3]? = some thread ∧
      thread.callback.stage = .eom ∧ thread.progress = .done (.ok
        { reply := .proceed
          mutations := [.delete "Message-Id" 1, .add "Message-Id" "<replaced@mx.example.com>",
            .add "Message-Id" "<4AbC@mx.example.com>"] }) := by
  obtain ⟨thread, hi, hanswer⟩ := Option.bind_eq_some_iff.1 answer_withoutId
  refine ⟨thread, hi, ?_, Thread.answer?_eq_some.1 hanswer⟩
  have hstage : ((start replacing).run .bare withoutId).threads[3]?.map (·.callback.stage)
      = some .eom := by decide +kernel
  rw [hi] at hstage
  exact Option.some.inj hstage

theorem isInterrupted_withoutId :
    (account (((start replacing).run .bare withoutId).eventsOf 3)).isInterrupted = false := by
  decide +kernel

theorem delivered_agrees_iff_withoutId :
    ∃ r record,
      (account (((start replacing).run .bare withoutId).eventsOf 3)).handed = [(r, record)] ∧
      ((∀ name, ((((start replacing).run .bare withoutId).received record.id).applyAll
            r.answer.mutations).values name = (Header.lines record.headers).values name) ↔
        (((start replacing).run .bare withoutId).received record.id).values "Message-Id" ≠ [] ∨
          ¬ r.composing.Yields "Message-Id" r.config.headers) := by
  obtain ⟨thread, hi, hstage, hdone⟩ := thread_withoutId
  obtain ⟨r, record, hhanded, hanswer, hiff⟩ :=
    delivered_agrees_iff .bare replacing withoutId hi hstage hdone rfl isInterrupted_withoutId
  rw [hanswer] at hiff
  exact ⟨r, record, hhanded, hiff⟩

/-- Delivered with a Message-Id that its record does not have: the one that `ensureMessageId` has given
the message is added after that of the template, but the filter has skipped it for its own copy, where
the template had it deleted. -/
theorem replaced_id_disagrees :
    ∃ thread answer r record,
      ((start replacing).run .bare withoutId).threads[3]? = some thread ∧
      thread.callback.stage = .eom ∧ thread.progress = .done (.ok answer) ∧
      answer.reply = .proceed ∧
      (account (((start replacing).run .bare withoutId).eventsOf 3)).isInterrupted = false ∧
      (account (((start replacing).run .bare withoutId).eventsOf 3)).handed = [(r, record)] ∧
      ¬ ∀ name, ((((start replacing).run .bare withoutId).received record.id).applyAll
        answer.mutations).values name = (Header.lines record.headers).values name := by
  obtain ⟨thread, hi, hstage, hdone⟩ := thread_withoutId
  have hhanded : (account (((start replacing).run .bare withoutId).eventsOf 3)).handed.map
      (fun c => (c.2.id, Header.lines c.2.headers)) = [(Uuid.issued 1,
        [("Subject", "hi"), ("Message-Id", "<replaced@mx.example.com>")])] := by decide +kernel
  obtain ⟨⟨r, record⟩, hone, hc⟩ := List.map_eq_singleton_iff.1 hhanded
  have hid : record.id = Uuid.issued 1 := congrArg Prod.fst hc
  have hlines : Header.lines record.headers
      = [("Subject", "hi"), ("Message-Id", "<replaced@mx.example.com>")] := congrArg Prod.snd hc
  refine ⟨thread, _, r, record, hi, hstage, hdone, rfl, isInterrupted_withoutId, hone, ?_⟩
  intro hagree
  have hid' := hagree "Message-Id"
  have hserver : ((((start replacing).run .bare withoutId).received (Uuid.issued 1)).applyAll
      [.delete "Message-Id" 1, .add "Message-Id" "<replaced@mx.example.com>",
        .add "Message-Id" "<4AbC@mx.example.com>"]).values "Message-Id"
      = ["<replaced@mx.example.com>", "<4AbC@mx.example.com>"] := by decide +kernel
  have hfilter : values "Message-Id"
      [("Subject", "hi"), ("Message-Id", "<replaced@mx.example.com>")]
      = ["<replaced@mx.example.com>"] := by decide +kernel
  rw [hid, hlines, hserver, hfilter] at hid'
  cases hid'

end Traffic

end MailFilter
