/-
Callbacks that are refused for where their session stands.

A callback that comes out of order, or to a session that has failed, is refused before it changes its
session. The one exception is `MAIL FROM`: the facts about authentication that it brings along are taken
over before the position is looked at, and they stay.

* `change_of_refused_stage`: what a refused callback leaves of its session;
* `stands_move`: a callback on its own is still to be carried out, has been refused, or never will be;
* `refused_unchanged_iff`: when a refused callback leaves its session as it was;
* `refused_introduces`: a callback that does not.
-/
import MailFilter.Proofs.Traffic.AllowList

namespace MailFilter

variable {σ : Type}

/-- The callback has been refused for where its session stands. -/
def Failure.isRefusal : Failure → Bool
  | outOfOrder _ _ | sessionFailed => true
  | noSession _ | senderCount _ | noMessage _ | messageFinalized | panicked _ => false

namespace Callback

/-- Whether a callback is `MAIL FROM` with one sender and brings along a user where a session knows of
none yet. -/
def introduces (s : Session) : Callback → Bool
  | envFrom args sasl =>
    (SessionChange.senderArguments args).length = 1 && s.connection.sasl.username.isNone &&
      sasl.username.isSome
  | _ => false

/-- The session `s` after it has learnt of a user from the callback `c`, if that `introduces` one. -/
def introduce (s : Session) (c : Callback) : Session :=
  match c with
  | envFrom _ sasl =>
    if c.introduces s then { s with connection := { s.connection with sasl } } else s
  | _ => s

variable {c : Callback} {message : Uuid} {now : Timestamp} {s : Session} {e : Failure}

theorem introduce_id (s : Session) (c : Callback) : (c.introduce s).id = s.id := by
  cases c with
  | envFrom args sasl =>
    unfold introduce
    dsimp only
    split <;> rfl
  | _ => rfl

/-- Nothing but the facts about authentication is learnt from a callback by `introduce`. -/
theorem introduce_eq (s : Session) (c : Callback) :
    c.introduce s
      = { s with connection := { s.connection with sasl := (c.introduce s).connection.sasl } } := by
  cases c with
  | envFrom args sasl =>
    unfold introduce
    dsimp only
    split <;> rfl
  | _ => rfl

/-- A session is as before exactly if it has learnt of no user: if the callback `introduces` none. -/
theorem introduce_eq_self_iff : c.introduce s = s ↔ c.introduces s = false := by
  cases c with
  | envFrom args sasl =>
    unfold introduce
    dsimp only
    split
    · next h =>
      -- the user who is known afterwards was not known before
      refine ⟨fun heq => ?_, fun hnot => absurd h (by simp [hnot])⟩
      have hsasl : sasl = s.connection.sasl := congrArg (·.connection.sasl) heq
      simp only [introduces, hsasl, Bool.and_eq_true, Option.isNone_iff_eq_none] at h
      simp [h.1.2] at h
    · next h => exact ⟨fun _ => by simpa using h, fun _ => rfl⟩
  | _ => exact ⟨fun _ => rfl, fun _ => rfl⟩

theorem recordSasl_eq_introduce {args : List String} {sasl : Sasl}
    (h : (SessionChange.senderArguments args).length = 1) (s : Session) :
    s.recordSasl sasl = (envFrom args sasl).introduce s := by
  simp only [Session.recordSasl, Connection.recordSasl, introduce, introduces, h, decide_true,
    Bool.true_and]
  split <;> rfl

/-- **A refused callback leaves its session as it was**, but for a user whom it `introduces`. -/
theorem change_of_refused_stage (hc : c ≠ .close) (he : e.isRefusal = true)
    (h : (c.change message now s).1 = .error e) :
    (c.change message now s).2 = c.introduce s := by
  by_cases ht : c.touches = true
  · rcases s.advance_cases c.stage with ⟨position, -, ha⟩ | ⟨e', -, ha⟩
    · -- a callback whose stage leads on can only fail for want of a message
      exfalso
      obtain ⟨connection, hchange⟩ := change_of_advance message now ht ha
      rw [hchange, SessionChange.changeCurrent] at h
      split at h
      · cases h
        cases he
      · next m hm =>
        obtain ⟨m', htouch, -⟩ := c.touch_eq s.config.hostname (Session.verdict_of_current? hm)
        rw [htouch] at h
        cases h
    · rw [change_of_refused ht ha]
      cases c with
      | envFrom _ _ => cases ht
      | _ => rfl
  · cases c with
    | helo name tls =>
      simp only [change, SessionChange.greet, Change.whole] at h ⊢
      split at h
      · cases h
      · rfl
    -- `MAIL FROM` introduces a user before the stage is looked at
    | envFrom args sasl =>
      simp only [change, SessionChange.envFrom] at h ⊢
      rcases hargs : SessionChange.senderArguments args with _ | ⟨sender, _ | ⟨_, _⟩⟩
      · simp only [hargs] at h
        cases h
        cases he
      · simp only [hargs, Change.andThen, SessionChange.recordSasl, Change.whole] at h ⊢
        rw [← recordSasl_eq_introduce (by rw [hargs]; rfl) s]
        split at h
        · cases h
        · rfl
      · simp only [hargs] at h
        cases h
        cases he
    | abort => cases h
    | close => exact absurd rfl hc
    | envRcpt _ | header _ _ | eoh _ _ | body _ | eom _ => exact absurd rfl ht

end Callback

/-! ### Tasks -/

/-- The task answers for a refusal. -/
def Task.isRefusal : Task σ → Bool
  | interrupted _ _ (.failure e) => e.isRefusal
  | _ => false

/-- The callback has been carried out without being refused, and it never will be refused. -/
def Progress.Spared (p : Progress σ) : Prop :=
  ∀ task, p.task? = some task → task.isRefusal = false ∧ ∀ id c, task ≠ .called id c

namespace Task.Outcome

variable {f : Filter σ} {st : FilterState σ} {id : Uuid} {s s' : Session} {task : Task σ}
  {p : Progress σ}

/-- Nothing but a callback that has just been taken can be refused: all else is `Spared`. -/
theorem spared (h : task.Outcome f st id s p s') (htask : ∀ id c, task ≠ .called id c) :
    p.Spared := by
  cases h with
  | closed | failed _ _ | followed _ _ => exact absurd rfl (htask _ _)
  | refused _ | accepted _ | handed _ | answered | ended _ => rintro t ⟨⟩
  | decided _ _ | panicked _ _ | asked _ _ | missed _ | awaited _ _ _ _ | judged _ _ _
  | concluded _ _ _ _ | lost _ _ | noted _ =>
    rintro t ⟨⟩
    exact ⟨rfl, by rintro id c ⟨⟩⟩

end Task.Outcome

theorem Filter.spared_follow (s : Session) (c : Callback) :
    (follow s c : Progress σ).Spared := by
  unfold follow
  split
  · rintro task ⟨⟩
    exact ⟨rfl, by rintro id c ⟨⟩⟩
  · split
    · rintro task ⟨⟩
      exact ⟨rfl, by rintro id c ⟨⟩⟩
    · rintro task ⟨⟩
      exact ⟨rfl, by rintro id c ⟨⟩⟩
  · rintro task ⟨⟩

/-- A callback that is carried out by `act` is refused and leaves its session as it was, but for a user
whom it `introduces`, or it is not refused. -/
theorem Filter.act_cases (f : Filter σ) {st : FilterState σ} (hd : st.sessions.Distinct) {id : Uuid}
    {s : Session} (hs : st.sessions.find? id = some s) (c : Callback) :
    (∃ e, e.isRefusal = true ∧ (act f id c st).1 = .failed c.stage (some id) e ∧
      (act f id c st).2.sessions.find? id = some (c.introduce s)) ∨ (act f id c st).1.Spared := by
  by_cases hc : c = .close
  · subst hc
    exact .inr (by rintro task ⟨⟩)
  · have hheld : st.fresh.2.sessions.held? id = some s := SessionTable.held?_of_find? hd hs
    have hid : s.id = id := SessionTable.id_of_held? hheld
    rw [act_eq f id hc, locked_of_held hheld, Change.andThen]
    rcases hchange : c.change (Uuid.issued st.serial) st.clock s with ⟨e | _, s'⟩
    · cases he : e.isRefusal with
      | true =>
        have hsame := Callback.change_of_refused_stage hc he (congrArg Prod.fst hchange)
        rw [hchange] at hsame
        obtain rfl : s' = c.introduce s := hsame
        refine .inl ⟨e, he, rfl, ?_⟩
        show (st.sessions.update (c.introduce s)).find? id = _
        rw [SessionTable.find?_update, if_pos ((c.introduce_id s).trans hid), hs]
        rfl
      | false =>
        refine .inr ?_
        rintro task ⟨⟩
        exact ⟨he, by rintro id c ⟨⟩⟩
    · exact .inr (spared_follow s' c)

/-- The answer to a refusal leaves the sessions alone: it is the end of its callback. -/
theorem Filter.sessions_step_refusal (f : Filter σ) (st : FilterState σ) {task : Task σ}
    (h : task.isRefusal = true) :
    (∃ outcome, (f.step st task).1 = .done outcome) ∧
      (f.step st task).2.sessions = st.sessions := by
  cases task with
  | interrupted stage id reason =>
    refine ⟨done_of_answerInterruption .., ?_⟩
    cases reason with
    | panic p => cases h
    | failure e =>
      have hfatal : e.isFatal = false := by cases e <;> first | rfl | cases h
      simp only [step, answerInterruption, answerFailure, hfatal]
      split <;> rfl
  | _ => cases h

namespace Traffic

variable {f : Filter σ} {T : Traffic σ} {id : Uuid} {c : Callback} {s : Session} {i : Nat}

/-- How the callback `c` on the session `id` stands, at the place `i`, when nothing but the background
comes in between. -/
inductive Stands (id : Uuid) (c : Callback) (s : Session) (i : Nat) (T : Traffic σ) : Prop where
  /-- It is still to be carried out. -/
  | taken (hi : T.threads[i]? = some ⟨some id, c, .next (.called id c)⟩)
      (hs : T.state.sessions.find? id = some s)
      (hlog : ∀ e ∈ T.eventsOf i, e.task.isRefusal = false)
  /-- It has been refused, and that is all there is left to answer for. -/
  | refused {p : Progress σ} (hi : T.threads[i]? = some ⟨some id, c, p⟩)
      (hp : ∀ task, p.task? = some task → task.isRefusal = true)
      (hs : T.state.sessions.find? id = some (c.introduce s))
  | spared {p : Progress σ} (hi : T.threads[i]? = some ⟨some id, c, p⟩) (hp : p.Spared)
      (hlog : ∀ e ∈ T.eventsOf i, e.task.isRefusal = false)

/-- A callback has carried out a task that does not answer for a refusal, and so for none that it has
carried out `isRefusal` holds. -/
theorem isRefusal_extend (hlog : ∀ e ∈ T.eventsOf i, e.task.isRefusal = false) {task : Task σ}
    (h : task.isRefusal = false) (p : Progress σ) (st : FilterState σ) (threads : List (Thread σ)) :
    ∀ e ∈ (T.extend ⟨i, task, T.state, p, st⟩ threads).eventsOf i, e.task.isRefusal = false := by
  intro e he
  rw [eventsOf_extend] at he
  split at he
  · rcases List.mem_append.1 he with he | he
    · exact hlog e he
    · rwa [List.mem_singleton.1 he]
  · exact hlog e he

/-- Every move of a callback, or in the background, leaves the callback as it `Stands`. -/
theorem stands_move (f : Filter σ) (hT : T.Sound) (h : T.Stands id c s i) {m : Move σ}
    (hm : m.IsOf i) : (T.move f m).Stands id c s i := by
  rcases hm with rfl | ⟨after, rfl⟩
  · show (T.go f i).Stands id c s i
    rcases go_cases f T i with hstay | ⟨thread, task, hi, ht, hgo⟩
    · rwa [hstay]
    rw [hgo]
    obtain ⟨hlt, -⟩ := List.getElem?_eq_some_iff.1 hi
    have hset : ∀ p, (T.threads.set i { thread with progress := p })[i]?
        = some { thread with progress := p } := fun p => List.getElem?_set_self hlt
    -- the callback goes on from where it stood
    cases h with
    | taken hi' hs hlog =>
      obtain rfl := Option.some.inj (hi.symm.trans hi')
      cases ht
      rcases f.act_cases hT.distinct hs c with ⟨e, he, hp, hs'⟩ | hspared
      · refine .refused (hset _) ?_ hs'
        intro t ht
        have hp' : (f.step T.state (.called id c)).1 = .failed c.stage (some id) e := hp
        rw [hp'] at ht
        cases ht
        exact he
      · exact .spared (hset _) hspared (isRefusal_extend hlog rfl _ _ _)
    | refused hi' hp hs =>
      obtain rfl := Option.some.inj (hi.symm.trans hi')
      obtain ⟨⟨outcome, hdone⟩, hsessions⟩ := f.sessions_step_refusal T.state (hp task ht)
      refine .refused (hset _) ?_ ?_
      · rw [hdone]
        rintro t ⟨⟩
      · show (f.step T.state task).2.sessions.find? id = _
        rw [hsessions, hs]
    | spared hi' hp hlog =>
      obtain rfl := Option.some.inj (hi.symm.trans hi')
      obtain ⟨hrefusal, hcalled⟩ := hp task ht
      refine .spared (hset _) ?_ (isRefusal_extend hlog hrefusal _ _ _)
      rcases hT.held i _ task hi ht with ⟨id', hmem, hid⟩ | ⟨stage, reason, rfl⟩
      · obtain ⟨x, hx⟩ := SessionTable.exists_held?_of_mem hmem
        obtain ⟨x', ho, -⟩ :=
          f.outcome_step hT.distinct ((hT.session i _ task hi ht).trans hid) hx
        exact ho.spared hcalled
      · obtain ⟨outcome, hdone⟩ := Filter.done_of_answerInterruption stage (some id) T.state reason
        have hp' : (f.step T.state (.interrupted stage (some id) reason)).1 = .done outcome := hdone
        show Progress.Spared (f.step T.state (.interrupted stage (some id) reason)).1
        rw [hp']
        rintro t ⟨⟩
  · -- the background concerns neither the callback nor its session
    cases h with
    | taken hi hs hlog => exact .taken hi hs hlog
    | refused hi hp hs => exact .refused hi hp hs
    | spared hi hp hlog => exact .spared hi hp hlog

theorem stands_run (f : Filter σ) (hT : T.Sound) (h : T.Stands id c s i) {moves : List (Move σ)}
    (hmoves : ∀ m ∈ moves, m.IsOf i) : (T.run f moves).Stands id c s i := by
  induction moves generalizing T with
  | nil => exact h
  | cons m rest ih =>
    obtain ⟨hm, hrest⟩ := List.forall_mem_cons.1 hmoves
    exact ih (sound_of_moved hT (moved_move f hT m)) (stands_move f hT h hm) hrest

/-- A callback that has found its session `Stands` at its beginning, or it is over. -/
theorem stands_call {f' : Filter σ} (hT : T.Traced f') (hs : T.state.sessions.find? id = some s)
    (c : Callback) :
    (T.move f (.call (some id) c)).Stands id c s T.threads.length := by
  have hnone : ∀ e ∈ (T.move f (.call (some id) c)).eventsOf T.threads.length,
      e.task.isRefusal = false := by
    intro e he
    change e ∈ T.eventsOf T.threads.length at he
    rw [hT.eventsOf_eq_nil (List.getElem?_eq_none_iff.2 (Nat.le_refl _))] at he
    cases he
  have hi : (T.move f (.call (some id) c)).threads[T.threads.length]?
      = some ⟨some id, c, Filter.call (some id) c T.state⟩ := List.getElem?_concat_length
  by_cases hc : c = .envRcpt []
  · subst hc
    rw [Filter.call_withoutRecipient hs] at hi
    exact .spared hi (by rintro t ⟨⟩) hnone
  · rw [Filter.call_of_find? hs hc] at hi
    exact .taken hi hs hnone

/-- **What a refused callback leaves of its session.** In whatever state the traffic is, a callback on
a session that can be found, with nothing but the background in between, that comes to be answered
because it came out of order or because the session had failed, leaves the session as it was: its
position, its settings, its messages and what is known of the client. The exception is `MAIL FROM` with
one sender that introduces a user: it is refused, and the user stays. -/
theorem refused_unchanged_iff (f : Filter σ) (st : FilterState σ) (before : List (Move σ))
    {id : Uuid} {c : Callback} {s : Session}
    (hs : ((start st).run f before).state.sessions.find? id = some s) {moves : List (Move σ)}
    (hmoves : ∀ m ∈ moves, m.IsOf ((start st).run f before).threads.length) {e : Event σ}
    (he : e ∈ (((start st).run f before).run f (.call (some id) c :: moves)).log)
    (hthread : e.thread = ((start st).run f before).threads.length)
    (hrefused : e.task.isRefusal = true) :
    ∃ s', (((start st).run f before).run f (.call (some id) c :: moves)).state.sessions.find? id
        = some s' ∧
      (s' = s ↔ c.introduces s = false) ∧
      s' = { s with connection := { s.connection with sasl := s'.connection.sasl } } := by
  generalize hT : (start st).run f before = T at hs hmoves he hthread ⊢
  have hsound : T.Sound := hT ▸ sound_run f (sound_start st) before
  have htraced : T.Traced f := hT ▸ traced_run f st before
  have hstands : (T.run f (.call (some id) c :: moves)).Stands id c s T.threads.length :=
    stands_run f (sound_of_moved hsound (moved_move f hsound _))
      (stands_call htraced hs c) hmoves
  have hmem : e ∈ (T.run f (.call (some id) c :: moves)).eventsOf T.threads.length :=
    List.mem_filter.2 ⟨he, by simpa using hthread⟩
  cases hstands with
  | taken _ _ hlog | spared _ _ hlog => exact absurd hrefused (by simp [hlog e hmem])
  | refused _ _ hs' =>
    exact ⟨c.introduce s, hs', Callback.introduce_eq_self_iff, Callback.introduce_eq s c⟩

/-- A client has begun a message, and a session for it is there. -/
def addressed : List (Move Unit) :=
  [.connect none none none, .call (some (Uuid.issued 0)) (.envFrom ["<a@example.org>"] {}), .go 0]

/-- A header before any recipient comes out of order in the session of `addressed`, which stays as it
was. -/
theorem refused_unchanged_header :
    let T := (start (.blank {})).run .bare addressed
    let T' := T.run .bare (.call (some (Uuid.issued 0)) (.header "Subject" "hi") ::
      [.go 1, .go 1])
    ∃ s, T.state.sessions.find? (Uuid.issued 0) = some s ∧
      (∃ e ∈ T'.log, e.thread = 1 ∧
        e.task = .interrupted .header (some (Uuid.issued 0)) (.failure (.outOfOrder .header .mailFrom))) ∧
      T'.state.sessions.find? (Uuid.issued 0) = some s := by
  intro T T'
  have hfound : (T.state.sessions.find? (Uuid.issued 0)).isSome = true := by decide +kernel
  obtain ⟨s, hs⟩ := Option.isSome_iff_exists.1 hfound
  obtain ⟨e, hk, hthread, ht⟩ : ∃ e, T'.log[2]? = some e ∧ e.thread = 1 ∧
      e.task = .interrupted .header (some (Uuid.issued 0))
        (.failure (.outOfOrder .header .mailFrom)) :=
    ⟨_, by with_unfolding_all rfl, rfl, by with_unfolding_all rfl⟩
  have he := List.mem_of_getElem? hk
  have hmoves : ∀ m ∈ ([.go 1, .go 1] : List (Move Unit)), m.IsOf T.threads.length := by
    rintro m (_ | ⟨_, _ | ⟨_, ⟨⟩⟩⟩) <;> exact .inl rfl
  obtain ⟨s', hs', hiff, -⟩ := refused_unchanged_iff .bare (.blank {}) addressed hs hmoves he
    hthread (by rw [ht]; rfl)
  exact ⟨s, hs, ⟨e, he, hthread, ht⟩, hs'.trans (congrArg some (hiff.2 rfl))⟩

/-- A second `MAIL FROM` comes out of order, and still it tells the session who the user is. -/
theorem refused_introduces :
    let T := (start (.blank {})).run .bare addressed
    let T' := T.run .bare (.call (some (Uuid.issued 0))
      (.envFrom ["<c@example.org>"] { username := some "carol", method := some "PLAIN" }) ::
      [.go 1, .go 1])
    ∃ s s', T.state.sessions.find? (Uuid.issued 0) = some s ∧
      (∃ e ∈ T'.log, e.thread = 1 ∧ e.task =
        .interrupted .envFrom (some (Uuid.issued 0)) (.failure (.outOfOrder .envFrom .mailFrom))) ∧
      T'.state.sessions.find? (Uuid.issued 0) = some s' ∧
      s.connection.sasl = {} ∧
      s'.connection.sasl = { username := some "carol", method := some "PLAIN" } := by
  intro T T'
  have hbefore : (T.state.sessions.find? (Uuid.issued 0)).map (·.connection.sasl) = some {} := by
    decide +kernel
  have hafter : (T'.state.sessions.find? (Uuid.issued 0)).map (·.connection.sasl)
      = some { username := some "carol", method := some "PLAIN" } := by
    decide +kernel
  obtain ⟨s, hs, hsasl⟩ := Option.map_eq_some_iff.1 hbefore
  obtain ⟨s', hs', hsasl'⟩ := Option.map_eq_some_iff.1 hafter
  obtain ⟨e, hk, hthread, ht⟩ : ∃ e, T'.log[2]? = some e ∧ e.thread = 1 ∧
      e.task = .interrupted .envFrom (some (Uuid.issued 0))
        (.failure (.outOfOrder .envFrom .mailFrom)) :=
    ⟨_, by with_unfolding_all rfl, rfl, by with_unfolding_all rfl⟩
  exact ⟨s, s', hs, ⟨e, List.mem_of_getElem? hk, hthread, ht⟩, hs', hsasl, hsasl'⟩

end Traffic

end MailFilter
