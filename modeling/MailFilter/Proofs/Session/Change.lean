/-
What a callback does to a session at first.

`Callback.Effect` lists all that can come of it: the callback is refused, the client is greeted, a
message is begun, touched, missed or abandoned. Proofs about runs go through these cases and never
through the changes themselves.

* `touch_eq`: touching an open message succeeds, and it stays open;
* `effect_change`: every callback but the last of a session has one of these effects.
-/
import MailFilter.Filter.Callback

namespace MailFilter

/-! ### The open message -/

namespace Session

variable {s : Session} {m : Message}

theorem current?_eq_some :
    s.current? = some m ↔ s.messages.getLast? = some m ∧ m.isFinalized = false := by
  rw [current?, Option.filter_eq_some_iff]
  simp

theorem mem_of_current? (h : s.current? = some m) : m ∈ s.messages :=
  List.mem_of_getLast? (current?_eq_some.1 h).1

theorem verdict_of_current? (h : s.current? = some m) : m.verdict = none := by
  simpa [Message.isFinalized] using (current?_eq_some.1 h).2

/-- The open message is the last one of `messages`. -/
theorem messages_of_current? (h : s.current? = some m) :
    s.messages = s.messages.dropLast ++ [m] := by
  obtain ⟨init, hinit⟩ := List.getLast?_eq_some_iff.1 (current?_eq_some.1 h).1
  rw [hinit, List.dropLast_concat]

@[simp] theorem messages_replaceLast (s : Session) (m : Message) :
    (s.replaceLast m).messages = s.messages.dropLast ++ [m] := rfl

@[simp] theorem position_replaceLast (s : Session) (m : Message) :
    (s.replaceLast m).position = s.position := rfl

theorem current?_replaceLast (s : Session) (h : m.verdict = none) :
    (s.replaceLast m).current? = some m := by
  rw [current?, messages_replaceLast, List.getLast?_concat]
  simp [Message.isFinalized, h]

theorem current?_replaceLast_finalized (s : Session) (h : m.verdict ≠ none) :
    (s.replaceLast m).current? = none := by
  rw [current?, messages_replaceLast, List.getLast?_concat]
  simpa [Message.isFinalized, Option.ne_none_iff_isSome] using h

/-- Putting the open message into its own place with `replaceLast` changes nothing. -/
theorem replaceLast_self (h : s.current? = some m) : s.replaceLast m = s := by
  rw [replaceLast, ← messages_of_current? h]

theorem current?_congr {s' : Session} (h : s'.messages = s.messages) :
    s'.current? = s.current? := by
  rw [current?, current?, h]

end Session

/-! ### Positions -/

namespace Position

/-- Only within a message, where `Position.inMessage` holds, there is something to touch; `eom` leads out
of it. -/
theorem inMessage_of_next {p q : Position} {stage : Stage} (h : p.next stage = some q)
    (hs : stage = .envRcpt ∨ stage = .header ∨ stage = .eoh ∨ stage = .body ∨ stage = .eom) :
    p.inMessage = true ∧ q.inMessage = (stage != .eom) := by
  rcases hs with rfl | rfl | rfl | rfl | rfl <;> cases p <;> cases h <;> exact ⟨rfl, rfl⟩

theorem next_helo {p q : Position} (h : p.next .helo = some q) :
    p.inMessage = false ∧ q = .greeted := by
  cases p <;> cases h <;> exact ⟨rfl, rfl⟩

theorem next_envFrom {p q : Position} (h : p.next .envFrom = some q) :
    p.inMessage = false ∧ q = .mailFrom := by
  cases p <;> cases h <;> exact ⟨rfl, rfl⟩

/-- After an `abort`, no message is open. -/
theorem inMessage_abort (p : Position) : ((p.next .abort).getD p).inMessage = false := by
  cases p <;> rfl

end Position

/-! ### Touching a message -/

namespace Callback

/-- Whether a callback touches the open message, so fails without one. -/
def touches : Callback → Bool
  | envRcpt _ | header .. | eoh .. | body _ | eom _ => true
  | helo .. | envFrom .. | abort | close => false

/-- What a callback does to the open message, if it `touches` one. -/
def touch (hostname : String) : Callback → Change Message Unit
  | header key value => Change.whole fun m => (m.addHeader key value).map (·.2)
  | eoh queueId _ => Change.whole (SessionChange.nameMessage queueId)
  | body chunk => Change.whole fun m => m.appendBody chunk
  | eom queueId => SessionChange.completeMessage hostname queueId
  | _ => Change.look fun _ => ()

theorem stage_of_touches {c : Callback} (h : c.touches = true) :
    c.stage = .envRcpt ∨ c.stage = .header ∨ c.stage = .eoh ∨ c.stage = .body ∨
      c.stage = .eom := by
  cases c <;> simp_all [touches, stage]

theorem eom_of_stage {c : Callback} (h : c.stage = .eom) : ∃ q, c = .eom q := by
  cases c with
  | eom q => exact ⟨q, rfl⟩
  | _ => cases h

end Callback

/-- The message `m'` is `m`, but for what is added while it is open: header lines, body, its names. -/
structure Message.SameSubject (m m' : Message) : Prop where
  id : m'.id = m.id
  session : m'.session = m.session
  sender : m'.sender = m.sender
  recipients : m'.recipients = m.recipients
  verdict : m'.verdict = m.verdict

namespace Message

theorem SameSubject.refl (m : Message) : m.SameSubject m := ⟨rfl, rfl, rfl, rfl, rfl⟩

theorem SameSubject.trans {m m₁ m₂ : Message} (h : m.SameSubject m₁) (h' : m₁.SameSubject m₂) :
    m.SameSubject m₂ :=
  ⟨h'.id.trans h.id, h'.session.trans h.session, h'.sender.trans h.sender,
    h'.recipients.trans h.recipients, h'.verdict.trans h.verdict⟩

theorem whenOpen_eq {α : Type} {m : Message} (h : m.verdict = none) (a : α) :
    m.whenOpen a = .ok a := by
  simp [whenOpen, isFinalized, h]

theorem nameMessage_eq {m : Message} (h : m.verdict = none) (queueId : Option String) :
    ∃ q, SessionChange.nameMessage queueId m = .ok { m with queueId := q } := by
  unfold SessionChange.nameMessage
  split
  · split
    · exact ⟨m.queueId, rfl⟩
    · exact ⟨_, whenOpen_eq h _⟩
  · exact ⟨m.queueId, rfl⟩

/-- The touch `completeMessage` names an open message and then sees to its Message-Id. -/
theorem completeMessage_eq {m : Message} (h : m.verdict = none) (hostname : String)
    (queueId : Option String) :
    ∃ q m', ({ m with queueId := q } : Message).ensureMessageId hostname = .ok m' ∧
      SessionChange.completeMessage hostname queueId m = (.ok (), m'.2) := by
  obtain ⟨q, hq⟩ : ∃ q, (if m.queueId.isEmpty then SessionChange.nameMessage queueId m else .ok m)
      = .ok { m with queueId := q } := by
    split
    · exact nameMessage_eq h queueId
    · exact ⟨m.queueId, rfl⟩
  obtain ⟨m', hm'⟩ : ∃ m', ({ m with queueId := q } : Message).ensureMessageId hostname = .ok m' := by
    unfold ensureMessageId
    split
    · exact ⟨_, rfl⟩
    · simp only [addHeader]
      rw [whenOpen_eq (by exact h)]
      exact ⟨_, rfl⟩
  refine ⟨q, m', hm', ?_⟩
  simp only [SessionChange.completeMessage, Change.andThen, Change.whole, hq, hm', Except.map]

theorem sameSubject_ensureMessageId {m : Message} {hostname : String} {m' : Option String × Message}
    (h : m.ensureMessageId hostname = .ok m') : m.SameSubject m'.2 := by
  unfold ensureMessageId at h
  split at h
  · cases h
    exact .refl m
  · cases hf : m.isFinalized with
    | true => simp [addHeader, whenOpen, hf, Except.map] at h
    | false =>
      simp only [addHeader, whenOpen, hf, Except.map] at h
      cases h
      exact ⟨rfl, rfl, rfl, rfl, rfl⟩

end Message

/-- Callbacks succeed in their `touch` of an open message, and it stays open. -/
theorem Callback.touch_eq (c : Callback) (hostname : String) {m : Message} (h : m.verdict = none) :
    ∃ m', c.touch hostname m = (.ok (), m') ∧ m.SameSubject m' := by
  cases c with
  | header key value =>
    refine ⟨{ m with headers := m.headers ++ [{ key, value, index := m.nextIndex key }] }, ?_,
      ⟨rfl, rfl, rfl, rfl, rfl⟩⟩
    simp only [touch, Change.whole, Message.addHeader, Message.whenOpen_eq h, Except.map]
  | eoh queueId sasl =>
    obtain ⟨q, hq⟩ := Message.nameMessage_eq h queueId
    refine ⟨{ m with queueId := q }, ?_, ⟨rfl, rfl, rfl, rfl, rfl⟩⟩
    simp only [touch, Change.whole, hq]
  | body chunk =>
    refine ⟨{ m with body := m.body ++ chunk }, ?_, ⟨rfl, rfl, rfl, rfl, rfl⟩⟩
    simp only [touch, Change.whole, Message.appendBody, Message.whenOpen_eq h]
  | eom queueId =>
    obtain ⟨q, m', hm', hq⟩ := Message.completeMessage_eq h hostname queueId
    have hnamed : m.SameSubject { m with queueId := q } := ⟨rfl, rfl, rfl, rfl, rfl⟩
    exact ⟨m'.2, hq, hnamed.trans (Message.sameSubject_ensureMessageId hm')⟩
  | helo _ _ | envFrom _ _ | envRcpt _ | abort | close => exact ⟨m, rfl, .refl m⟩

/-! ### Effects -/

/-- What can come of a callback that is not the last one of its session. `s'` is the
session afterwards. -/
inductive Callback.Effect (c : Callback) (message : Uuid) (now : Timestamp) (s : Session) :
    Except Failure Unit → Session → Prop where
  /-- It is refused, for its arguments or for where the session stands. -/
  | refused {e : Failure} (connection : Connection)
      (he : (∃ n, e = .senderCount n) ∨ e = .sessionFailed ∨ e = .outOfOrder c.stage s.position) :
      Effect c message now s (.error e) { s with connection }
  | greeted {position : Position} {connection : Connection} (hc : c.stage = .helo)
      (hp : s.position.next .helo = some position) :
      Effect c message now s (.ok ()) { s with position, connection }
  | begun {position : Position} {connection : Connection} {sender : Address}
      (hc : c.stage = .envFrom) (hp : s.position.next .envFrom = some position) :
      Effect c message now s (.ok ())
        { s with
          position, connection
          messages := s.messages ++ [Message.new message s.id sender now] }
  /-- There is no message that it could touch. -/
  | missed {position : Position} {connection : Connection} (hc : c.touches = true)
      (hp : s.position.next c.stage = some position) (hm : s.current? = none) :
      Effect c message now s (.error (.noMessage c.stage)) { s with position, connection }
  | touched {position : Position} {connection : Connection} {m m' : Message}
      (hc : c.touches = true) (hp : s.position.next c.stage = some position)
      (hm : s.current? = some m) (ht : c.touch s.config.hostname m = (.ok (), m'))
      (hs : m.SameSubject m') :
      Effect c message now s (.ok ()) (({ s with position, connection } : Session).replaceLast m')
  | abandoned (hc : c = .abort) : Effect c message now s (.ok ()) s.abort.2

namespace Session

/-- A stage leads on in `Session.advance`, or it is refused. -/
theorem advance_cases (s : Session) (stage : Stage) :
    (∃ position, s.position.next stage = some position ∧
      s.advance stage = .ok { s with position }) ∨
    ∃ e, (e = .sessionFailed ∨ e = .outOfOrder stage s.position) ∧
      s.advance stage = .error e := by
  unfold advance
  by_cases hf : s.position = .failed
  · exact .inr ⟨.sessionFailed, .inl rfl, by rw [if_pos hf]⟩
  · rw [if_neg hf]
    cases hn : s.position.next stage with
    | some position => exact .inl ⟨position, rfl, rfl⟩
    | none => exact .inr ⟨_, .inr rfl, rfl⟩

end Session

namespace Callback

variable {c : Callback} {message : Uuid} {now : Timestamp} {s : Session}

/-- A callback that `touches` the open message is refused as its stage is. -/
theorem change_of_refused (hc : c.touches = true) {e : Failure}
    (h : s.advance c.stage = .error e) : c.change message now s = (.error e, s) := by
  cases c with
  | envRcpt _ | header _ _ | eoh _ _ | body _ | eom _ =>
    simp only [stage] at h
    simp only [change, SessionChange.envRcpt, SessionChange.header, SessionChange.eoh,
      SessionChange.body, SessionChange.eom, SessionChange.advance, Change.andThen, Change.whole, h]
  | helo _ _ | envFrom _ _ | abort | close => cases hc

/-- A callback that `touches` the open message and whose stage leads on comes down to its `touch`. -/
theorem change_of_advance (message : Uuid) (now : Timestamp) (hc : c.touches = true)
    {position : Position}
    (h : s.advance c.stage = .ok { s with position }) :
    ∃ connection, c.change message now s
      = SessionChange.changeCurrent c.stage (c.touch s.config.hostname)
          { s with position, connection } := by
  cases c with
  | eoh queueId sasl =>
    refine ⟨s.connection.recordSasl sasl, ?_⟩
    simp only [stage] at h
    simp only [change, SessionChange.eoh, SessionChange.advance, Change.andThen, Change.whole, h]
    rfl
  | envRcpt _ | header _ _ | body _ | eom _ =>
    refine ⟨s.connection, ?_⟩
    simp only [stage] at h
    simp only [change, SessionChange.envRcpt, SessionChange.header, SessionChange.body,
      SessionChange.eom, SessionChange.advance, Change.andThen, Change.whole, h]
    rfl
  | helo _ _ | envFrom _ _ | abort | close => cases hc

/-- The `change` of every callback that is not the last one of its session has one of the effects. -/
theorem effect_change (c : Callback) (hc : c ≠ .close) (message : Uuid) (now : Timestamp)
    (s : Session) :
    c.Effect message now s (c.change message now s).1 (c.change message now s).2 := by
  -- callbacks that touch the message do so by one common change, the others each in its own way
  by_cases ht : c.touches = true
  · rcases s.advance_cases c.stage with ⟨position, hp, ha⟩ | ⟨e, he, ha⟩
    · obtain ⟨connection, h⟩ := change_of_advance message now ht ha
      rw [h, SessionChange.changeCurrent]
      cases hm : s.current? with
      | none =>
        have hm' : ({ s with position, connection } : Session).current? = none := hm
        rw [hm']
        exact .missed ht hp hm
      | some m =>
        have hm' : ({ s with position, connection } : Session).current? = some m := hm
        obtain ⟨m', hm₁, hs⟩ := c.touch_eq s.config.hostname (Session.verdict_of_current? hm)
        simp only [hm', hm₁]
        exact .touched ht hp hm hm₁ hs
    · rw [change_of_refused ht ha]
      exact .refused s.connection (.inr he)
  · cases c with
    | helo name tls =>
      rcases s.advance_cases .helo with ⟨position, hp, ha⟩ | ⟨e, he, ha⟩
      · simp only [change, SessionChange.greet, Change.whole, Session.greet, ha, Except.map]
        exact .greeted rfl hp
      · simp only [change, SessionChange.greet, Change.whole, Session.greet, ha, Except.map]
        exact .refused s.connection (.inr he)
    | envFrom args sasl =>
      simp only [change, SessionChange.envFrom]
      rcases SessionChange.senderArguments args with _ | ⟨sender, _ | ⟨_, _⟩⟩
      · exact .refused s.connection (.inl ⟨_, rfl⟩)
      · -- the facts about authentication stay even if the message is refused
        rcases (s.recordSasl sasl).advance_cases .envFrom with ⟨position, hp, ha⟩ | ⟨e, he, ha⟩
        · simp only [Change.andThen, SessionChange.recordSasl, Change.whole, Session.begin, ha,
            Except.map]
          exact .begun rfl hp
        · simp only [Change.andThen, SessionChange.recordSasl, Change.whole, Session.begin, ha,
            Except.map]
          exact .refused _ (.inr he)
      · exact .refused s.connection (.inl ⟨_, rfl⟩)
    | abort => exact .abandoned rfl
    | close => exact absurd rfl hc
    | envRcpt _ | header _ _ | eoh _ _ | body _ | eom _ => exact absurd rfl ht

end Callback

end MailFilter
