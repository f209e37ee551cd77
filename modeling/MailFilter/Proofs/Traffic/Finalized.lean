/-
Messages with a verdict.

Once its verdict has been recorded, a message no longer changes: whoever calls on it is refused, and
callbacks keep away from it. Its session begins new messages behind it and abandons none but the last
one, so it also stays in its place.

* `call_finalized`: what a call on a message with a verdict comes to;
* `Task.Outcome.retains`: a task leaves the messages with a verdict in their places;
* `finalized_kept`: the result for every row of calls, and for all traffic.
-/
import MailFilter.Proofs.Traffic.Violation

namespace MailFilter

variable {σ : Type}

/-! ### Calls -/

namespace Message

/-- A call that changes a message as long as it is open. -/
inductive Call where
  | setQueueId (queueId : String)
  | addRecipient (recipient : Address)
  | appendBody (chunk : List UInt8)
  | headers (op : HeaderOperation)
  | finalize (verdict : Verdict Float)

/-- Makes the `Call` on the message `m`. -/
def call (m : Message) : Call → Except Failure Message
  | .setQueueId queueId => m.setQueueId queueId
  | .addRecipient recipient => m.addRecipient recipient
  | .appendBody chunk => m.appendBody chunk
  | .headers op => op.perform m
  | .finalize verdict => m.finalize verdict

/-- The message `m` after calls, whether or not they have succeeded. -/
def after (m : Message) (calls : List Call) : Message :=
  calls.foldl (fun m c => (Change.whole (fun m => m.call c) m).2) m

/-- The call is about a Message-Id that the message has already. -/
def IsNeedless (m : Message) (c : Call) : Prop :=
  ∃ hostname, c = .headers (.ensureId hostname) ∧ (m.header? "Message-Id").isSome = true

variable {m : Message}

theorem whenOpen_finalized {α : Type} (h : m.isFinalized = true) (result : α) :
    m.whenOpen result = .error .messageFinalized := by
  rw [whenOpen, if_pos h]

/-- A message with a verdict refuses to be changed by a `call`. To see that it has a Message-Id is no
change, and succeeds without one: it `IsNeedless`. -/
theorem call_finalized (h : m.isFinalized = true) (c : Call) :
    (¬ m.IsNeedless c ∧ m.call c = .error .messageFinalized) ∨
      (m.IsNeedless c ∧ m.call c = .ok m) := by
  cases c with
  | setQueueId _ | addRecipient _ | appendBody _ | finalize _ =>
    exact .inl ⟨by rintro ⟨_, ⟨⟩, -⟩, whenOpen_finalized h _⟩
  | headers op =>
    cases op with
    | add key value =>
      refine .inl ⟨by rintro ⟨_, ⟨⟩, -⟩, ?_⟩
      rw [call, HeaderOperation.perform, addHeader, whenOpen_finalized h]
      rfl
    | delete key index =>
      refine .inl ⟨by rintro ⟨_, ⟨⟩, -⟩, ?_⟩
      rw [call, HeaderOperation.perform, deleteHeader, whenOpen_finalized h]
      rfl
    | ensureId hostname =>
      -- the Message-Id is looked for before it is asked whether the message is open
      rw [call, HeaderOperation.perform, ensureMessageId]
      by_cases hid : (m.header? "Message-Id").isSome = true
      · rw [if_pos hid]
        exact .inr ⟨⟨hostname, rfl, hid⟩, rfl⟩
      · have hneeds : ¬ m.IsNeedless (.headers (.ensureId hostname)) := by
          rintro ⟨_, -, hid'⟩
          exact hid hid'
        refine .inl ⟨hneeds, ?_⟩
        simp only [if_neg hid, addHeader, whenOpen_finalized h, Except.map]

/-- Calls leave a message with a verdict as it is: it is the same `after` them. -/
theorem after_finalized (h : m.isFinalized = true) (calls : List Call) : m.after calls = m := by
  induction calls with
  | nil => rfl
  | cons c rest ih =>
    have hstays : (Change.whole (fun m => m.call c) m).2 = m := by
      rcases call_finalized h c with ⟨-, hc⟩ | ⟨-, hc⟩ <;> rw [Change.whole, hc]
    rw [after, List.foldl_cons, hstays]
    exact ih

end Message

/-! ### Sessions -/

namespace Session

variable {s s' s'' : Session}

/-- From `s` to `s'` every message with a verdict stays in its place, as it is. -/
def Retains (s s' : Session) : Prop :=
  ∀ (i : Nat) (m : Message), s.messages[i]? = some m → m.isFinalized = true →
    s'.messages[i]? = some m

theorem Retains.trans (h : s.Retains s') (h' : s'.Retains s'') : s.Retains s'' :=
  fun i m hi hm => h' i m (h i m hi hm) hm

/-- A session that takes up new messages behind those that it has `Retains` them all. -/
theorem retains_of_append {new : List Message} (h : s'.messages = s.messages ++ new) :
    s.Retains s' := by
  intro i m hi _
  obtain ⟨hlt, -⟩ := List.getElem?_eq_some_iff.1 hi
  rw [h, List.getElem?_append_left hlt, hi]

theorem retains_of_eq (h : s'.messages = s.messages) : s.Retains s' :=
  retains_of_append (h.trans (List.append_nil s.messages).symm)

/-- Only the open message can be lost or give way to another one: a session `Retains` the others. -/
theorem retains_of_dropLast {m₀ : Message} (hopen : s.current? = some m₀) {new : List Message}
    (h : s'.messages = s.messages.dropLast ++ new) : s.Retains s' := by
  intro i m hi hm
  rw [messages_of_current? hopen] at hi
  have hlt : i < s.messages.dropLast.length := by
    by_contra hge
    obtain ⟨hi', -⟩ := List.getElem?_eq_some_iff.1 hi
    have hlast : i = s.messages.dropLast.length := by
      rw [List.length_append, List.length_singleton] at hi'
      omega
    rw [hlast, List.getElem?_concat_length] at hi
    rw [← Option.some.inj hi, (current?_eq_some.1 hopen).2] at hm
    cases hm
  rw [List.getElem?_append_left hlt] at hi
  rw [h, List.getElem?_append_left hlt, hi]

theorem retains_abort (s : Session) : s.Retains s.abort.2 := by
  unfold abort
  cases hm : s.current? with
  | none => exact retains_of_eq rfl
  | some m => exact retains_of_dropLast hm (List.append_nil s.messages.dropLast).symm

end Session

/-- A callback `Retains` the messages with a verdict in their places, by its `Effect`. -/
theorem Callback.Effect.retains {c : Callback} {message : Uuid} {now : Timestamp} {s s' : Session}
    {result : Except Failure Unit} (h : c.Effect message now s result s') : s.Retains s' := by
  cases h with
  | refused _ _ | greeted _ _ | missed _ _ _ => exact Session.retains_of_eq rfl
  | begun _ _ => exact Session.retains_of_append rfl
  | touched _ _ hm _ _ => exact Session.retains_of_dropLast hm rfl
  | abandoned _ => exact s.retains_abort

/-- A task `Retains` the messages with a verdict in their places, by its `Outcome`. -/
theorem Task.Outcome.retains {f : Filter σ} {st : FilterState σ} {id : Uuid} {s s' : Session}
    {task : Task σ} {p : Progress σ} (h : task.Outcome f st id s p s') : s.Retains s' := by
  cases h with
  | failed _ he | followed _ he => exact he.retains
  | accepted hm | concluded _ hm _ _ => exact Session.retains_of_dropLast hm rfl
  | _ => exact Session.retains_of_eq rfl

/-! ### Traffic -/

namespace Traffic

variable {f : Filter σ} {id : Uuid} {s : Session}

/-- A move `Retains` the messages with a verdict in their places. -/
theorem retains_of_moved {T T' : Traffic σ} {m : Move σ} (hT : T.Sound) (h : Moved f T m T')
    (hs : T.state.sessions.held? id = some s) :
    ∃ s', T'.state.sessions.held? id = some s' ∧ s.Retains s' := by
  rcases h.undisturbed_or_went hT with
    hundisturbed | ⟨i, thread, task, p, state, id', x, x', -, -, -, hx, ho, hheld, rfl⟩
  · obtain ⟨s', hs', hcourse⟩ := hundisturbed.kept id s hs
    exact ⟨s', hs', Session.retains_of_eq hcourse.messages⟩
  · by_cases hid : id' = id
    · subst hid
      rw [hx] at hs
      obtain rfl := Option.some.inj hs
      exact ⟨x', by rw [hheld, if_pos rfl], ho.retains⟩
    · exact ⟨s, by rw [hheld, if_neg hid, hs], Session.retains_of_eq rfl⟩

/-- With all moves of a `run` every session `Retains` the messages with a verdict. -/
theorem retains_run {T : Traffic σ} (hT : T.Sound) (hs : T.state.sessions.held? id = some s)
    (moves : List (Move σ)) :
    ∃ s', (T.run f moves).state.sessions.held? id = some s' ∧ s.Retains s' := by
  refine run_induction
    (P := fun T => ∃ s', T.state.sessions.held? id = some s' ∧ s.Retains s') ?_ hT
    ⟨s, hs, Session.retains_of_eq rfl⟩ moves
  rintro T m T' hT ⟨s₁, hs₁, h₁⟩ hmoved
  obtain ⟨s₂, hs₂, h₂⟩ := retains_of_moved hT hmoved hs₁
  exact ⟨s₂, hs₂, h₁.trans h₂⟩

end Traffic

/-- **A message with a verdict no longer changes.** From when a session can be found with it on, it
stays in its place in the session for all traffic: in whatever order callbacks come and go, and whatever
becomes of the messages after it. It does so until the session is removed, and the callbacks that hold
the session from then on see it there, too. Nor do direct calls change it, one after the other: each is
refused, unless it is to see that the message has the Message-Id which it has. -/
theorem Traffic.finalized_kept :
    (∀ (f : Filter σ) (st : FilterState σ) (before rest : List (Move σ)) (id : Uuid) (s : Session),
      ((start st).run f before).state.sessions.find? id = some s →
      ∃ s', (((start st).run f before).run f rest).state.sessions.held? id = some s' ∧
        (∀ x, (((start st).run f before).run f rest).state.sessions.find? id = some x → x = s') ∧
        ∀ (i : Nat) (m : Message), s.messages[i]? = some m → m.isFinalized = true →
          s'.messages[i]? = some m) ∧
    (∀ (m : Message) (calls : List Message.Call), m.isFinalized = true →
      m.after calls = m ∧ ∀ c, (¬ m.IsNeedless c ∧ m.call c = .error .messageFinalized) ∨
        (m.IsNeedless c ∧ m.call c = .ok m)) := by
  refine ⟨fun f st before rest id s hs => ?_, fun m calls hm =>
    ⟨Message.after_finalized hm calls, Message.call_finalized hm⟩⟩
  have hT := sound_run f (sound_start st) before
  obtain ⟨s', hs', hretains⟩ := retains_run (f := f) hT (SessionTable.held?_of_find? hT.distinct hs) rest
  refine ⟨s', hs', fun x hx => ?_, hretains⟩
  have hx' := SessionTable.held?_of_find? (sound_run f hT rest).distinct hx
  exact Option.some.inj (hx'.symm.trans hs')

/-- A client has one message judged. -/
def Traffic.oneJudged : List (Traffic.Move Unit) :=
  [.connect none none none, .call (some (Uuid.issued 0)) (.envFrom ["<a@example.org>"] {}), .go 0,
    .call (some (Uuid.issued 0)) (.envRcpt ["<c@example.com>"]), .go 1, .go 1, .go 1,
    .call (some (Uuid.issued 0)) (.eom none), .go 2, .go 2, .go 2, .go 2, .go 2]

/-- The client begins a second message and abandons it: the first one is still there. -/
theorem Traffic.finalized_kept_abandoned :
    ∃ s s' m, ((start (.blank {})).run .bare oneJudged).state.sessions.find? (Uuid.issued 0) = some s ∧
      s.messages[0]? = some m ∧ m.isFinalized = true ∧
      (((start (.blank {})).run .bare oneJudged).run .bare
        [.call (some (Uuid.issued 0)) (.envFrom ["<d@example.org>"] {}), .go 3,
          .call (some (Uuid.issued 0)) .abort, .go 4]).state.sessions.held? (Uuid.issued 0) = some s' ∧
      s'.messages[0]? = some m ∧
      m.after [.headers (.delete "Message-Id" 1), .appendBody [46]] = m := by
  have hfound : (((start (.blank {})).run .bare oneJudged).state.sessions.find?
      (Uuid.issued 0)).isSome = true := by decide +kernel
  obtain ⟨s, hs⟩ := Option.isSome_iff_exists.1 hfound
  have hjudged : (((start (.blank {})).run .bare oneJudged).state.sessions.find?
      (Uuid.issued 0)).all (fun s => s.messages[0]?.any (·.isFinalized)) = true := by decide +kernel
  rw [hs, Option.all_some] at hjudged
  obtain ⟨m, hm, hfinalized⟩ := (Option.any_eq_true _ _).1 hjudged
  obtain ⟨htraffic, hcalls⟩ := @finalized_kept Unit
  obtain ⟨s', hs', -, hkept⟩ := htraffic .bare (.blank {}) oneJudged
    [.call (some (Uuid.issued 0)) (.envFrom ["<d@example.org>"] {}), .go 3,
      .call (some (Uuid.issued 0)) .abort, .go 4] _ s hs
  exact ⟨s, s', m, hs, hm, hfinalized, hs', hkept 0 m hm hfinalized,
    (hcalls m _ hfinalized).1⟩

end MailFilter
