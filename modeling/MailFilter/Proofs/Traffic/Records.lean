/-
The records that are handed over of sessions and their messages.

The record of a message is handed over at the end of the message, that of a session when the session
ends, and neither knows of the other. They agree if callbacks on one session come one after the other
and sessions are swept away between their callbacks only: then a message with a verdict has its record
handed over before anything else can happen to its session.

* `gone_move`: the sessions that a move removes are those whose records it hands over;
* `over_move`: nothing happens any more to a session that has ended;
* `filed_move`: the records are those of messages that callbacks have done with, and of the sessions
  that have ended;
* `records_consistent`: the results for all such traffic.
-/
import MailFilter.Proofs.Traffic.Messages

namespace MailFilter

variable {σ : Type}

namespace Traffic

/-! ### Sessions that have ended -/

/-- The records that the `Move` hands to the queue. -/
def hands (f : Filter σ) (T : Traffic σ) : Move σ → List Record
  | .go i => ((T.threads[i]?.bind (·.progress.task?)).map (Task.hands T.state)).getD []
  | .prune now => (T.state.sessions.removeExpired f.maxAgeSecs now).1.map fun s =>
    .session (s.toRecord T.state.clock true)
  | _ => []

/-- A sweep removes only sessions on which no callback is under way: each of them `IsIdle`. -/
def Spares (f : Filter σ) (T : Traffic σ) : Move σ → Prop
  | .prune now => ∀ s ∈ (T.state.sessions.removeExpired f.maxAgeSecs now).1, T.IsIdle s.id
  | _ => True

instance (f : Filter σ) (T : Traffic σ) : (m : Move σ) → Decidable (T.Spares f m)
  | .prune now => inferInstanceAs (Decidable
      (∀ s ∈ (T.state.sessions.removeExpired f.maxAgeSecs now).1, T.IsIdle s.id))
  | .call .. | .connect .. | .go _ | .overrideConfig .. | .elsewhere _ => .isTrue trivial

/-- Moves in which each callback is over before the next one on the same session, and before the session
is swept away: the traffic `Admits` every move and `Spares` the callbacks. -/
def InTurn (f : Filter σ) (T : Traffic σ) : List (Move σ) → Prop
  | [] => True
  | m :: rest => T.Admits m ∧ T.Spares f m ∧ InTurn f (T.move f m) rest

instance decidableInTurn (f : Filter σ) (T : Traffic σ) :
    (moves : List (Move σ)) → Decidable (T.InTurn f moves)
  | [] => .isTrue trivial
  | m :: rest =>
    let _ := decidableInTurn f (T.move f m) rest
    inferInstanceAs (Decidable (T.Admits m ∧ T.Spares f m ∧ InTurn f (T.move f m) rest))

/-- Nothing is under way on a session that is `gone`, but to answer that it is not there. -/
def Over (T : Traffic σ) : Prop :=
  ∀ id ∈ T.state.sessions.gone, ∀ thread ∈ T.threads, thread.session = some id →
    ∀ task, thread.progress.task? = some task →
      ∃ stage reason, task = .interrupted stage (some id) reason

section

variable {f : Filter σ} {T : Traffic σ}

theorem hands_go {i : Nat} {thread : Thread σ} {task : Task σ} (hi : T.threads[i]? = some thread)
    (ht : thread.progress.task? = some task) : T.hands f (.go i) = task.hands T.state := by
  rw [hands, hi, Option.bind_some, ht, Option.map_some, Option.getD_some]

theorem hands_go_over {i : Nat} (h : ∀ t, T.threads[i]? = some t → t.progress.task? = none) :
    T.hands f (.go i) = [] := by
  rw [hands]
  cases hi : T.threads[i]? with
  | none => rfl
  | some t => rw [Option.bind_some, h t hi, Option.map_none, Option.getD_none]

theorem gone_move (f : Filter σ) (T : Traffic σ) (m : Move σ) :
    (T.move f m).state.sessions.gone.Perm
      (T.state.sessions.gone ++ ((T.hands f m).filterMap Record.session?).map (·.id)) := by
  -- a move that hands over no record of a session leaves the list of those that are gone alone
  have hnone : T.hands f m = [] → (T.move f m).state.sessions.gone = T.state.sessions.gone →
      (T.move f m).state.sessions.gone.Perm
        (T.state.sessions.gone ++ ((T.hands f m).filterMap Record.session?).map (·.id)) := by
    intro hhands hgone
    rw [hhands, hgone]
    simp
  cases m with
  | connect ip port reverseDns => exact hnone rfl (SessionTable.gone_insert ..)
  | call session c => exact hnone rfl rfl
  | go i =>
    rcases T.go_over_or_task i with hover | ⟨thread, task, hi, ht⟩
    · refine hnone (hands_go_over hover) ?_
      show (T.go f i).state.sessions.gone = _
      rw [go_of_over hover]
    · show (T.go f i).state.sessions.gone.Perm _
      rw [hands_go hi ht, go_of_task hi ht]
      exact Filter.gone_step f T.state task
  | prune now =>
    have hids : (T.hands f (.prune now)).filterMap Record.session?
        = (T.state.sessions.removeExpired f.maxAgeSecs now).1.map fun s =>
          s.toRecord T.state.clock true := by
      simp [hands, List.filterMap_map, Function.comp_def, Record.session?]
    rw [hids, List.map_map]
    show (T.state.prune f now).2.sessions.gone.Perm _
    rw [(Filter.prune_keeps f now T.state).1]
    exact SessionTable.gone_removeWhere ..
  | overrideConfig id config =>
    refine hnone rfl ?_
    show (T.state.overrideConfig id config).sessions.gone = _
    unfold FilterState.overrideConfig
    split
    · exact SessionTable.gone_update ..
    · rfl
  | elsewhere after => exact hnone rfl rfl

/-- A record of a session that a move `hands` over is handed over by the last callback on it, or by a
sweep; the session could be found until then. -/
theorem session_of_hands {m : Move σ} {R : SessionRecord} (h : .session R ∈ T.hands f m) :
    ∃ s ∈ T.state.sessions.live, R.id = s.id ∧ R.messageIds = s.messageIds ∧
      ((∃ i thread, m = .go i ∧ T.threads[i]? = some thread ∧
          thread.progress.task? = some (.called s.id .close)) ∨
        ∃ now, m = .prune now ∧ s ∈ (T.state.sessions.removeExpired f.maxAgeSecs now).1) := by
  cases m with
  | go i =>
    rcases T.go_over_or_task i with hover | ⟨thread, task, hi, ht⟩
    · rw [hands_go_over hover] at h
      cases h
    · rw [hands_go hi ht] at h
      unfold Task.hands at h
      split at h
      · obtain ⟨s, hs, hR⟩ := List.mem_map.1 h
        obtain ⟨hlive, hid⟩ := List.mem_filter.1 hs
        obtain rfl := Record.session.inj hR
        obtain rfl := of_decide_eq_true hid
        exact ⟨s, hlive, rfl, rfl, .inl ⟨i, thread, rfl, hi, ht⟩⟩
      · simp at h
      · cases h
  | prune now =>
    obtain ⟨s, hs, hR⟩ := List.mem_map.1 h
    obtain rfl := Record.session.inj hR
    exact ⟨s, (List.mem_filter.1 hs).1, rfl, rfl, .inr ⟨now, rfl, hs⟩⟩
  | _ => cases h

/-- A callback on a session that cannot be found has nothing to do but to be answered for: its task is
`interrupted`. -/
theorem task_of_call_gone {st : FilterState σ} {id : Uuid} (h : st.sessions.find? id = none)
    {c : Callback} {task : Task σ} (ht : (Filter.call (some id) c st).task? = some task) :
    ∃ stage reason, task = .interrupted stage (some id) reason := by
  unfold Filter.call at ht
  rw [Option.bind_some, h] at ht
  cases c with
  | abort | close => cases ht
  | _ =>
    cases ht
    exact ⟨_, _, rfl⟩

/-- A callback that goes on keeps `Over`: the one that ends a session comes to its end with that, and by
`single` there is no other on the session. -/
theorem Over.go (h : T.Over) (hT : T.Sound) (hO : T.InOrder) (i : Nat) {id : Uuid}
    (hgone : id ∈ T.state.sessions.gone ∨
      ∃ R : SessionRecord, .session R ∈ T.hands f (.go i) ∧ R.id = id)
    {thread : Thread σ} (hthread : thread ∈ (T.move f (.go i)).threads)
    (hsession : thread.session = some id) {task : Task σ} (ht : thread.progress.task? = some task) :
    ∃ stage reason, task = .interrupted stage (some id) reason := by
  rcases T.go_over_or_task i with hover | ⟨thread₀, task₀, hi, ht₀⟩
  · rcases hgone with hid | ⟨R, hR, -⟩
    · have hgo : T.move f (.go i) = T := go_of_over hover
      rw [hgo] at hthread
      exact h id hid thread hthread hsession task ht
    · rw [hands_go_over hover] at hR
      cases hR
  · have hgo : T.move f (.go i) = _ := go_of_task hi ht₀
    rw [hgo] at hthread
    obtain ⟨j, hj⟩ := List.getElem?_of_mem hthread
    rcases (getElem?_set_iff hi).1 hj with ⟨rfl, rfl⟩ | ⟨hne, hj⟩
    · -- the callback that goes on comes to its end with this task
      obtain ⟨outcome, hdone⟩ : ∃ outcome, (f.step T.state task₀).1 = .done outcome := by
        rcases hgone with hid | ⟨R, hR, rfl⟩
        · obtain ⟨stage, reason, rfl⟩ :=
            h id hid thread₀ (List.mem_of_getElem? hi) hsession task₀ ht₀
          exact Filter.done_of_answerInterruption stage (some id) T.state reason
        · obtain ⟨s, -, -, -, ⟨k, thread₁, heq, hk, hclose⟩ | ⟨_, heq, -⟩⟩ := session_of_hands hR
          · cases heq
            obtain rfl := Option.some.inj (hi.symm.trans hk)
            obtain rfl := Option.some.inj (ht₀.symm.trans hclose)
            exact ⟨_, rfl⟩
          · cases heq
      rw [show (f.step T.state task₀).1 = _ from hdone] at ht
      cases ht
    · rcases hgone with hid | ⟨R, hR, rfl⟩
      · exact h id hid thread (List.mem_of_getElem? hj) hsession task ht
      · -- it would be a second callback under way on the session
        obtain ⟨s, -, hs, -, ⟨k, thread₁, heq, hk, hclose⟩ | ⟨_, heq, -⟩⟩ := session_of_hands hR
        · cases heq
          have hown := hT.session i thread₁ _ hk hclose
          exact absurd (hO.single i j thread₁ thread R.id hk hj (hs ▸ hown.symm) hsession
            (by simp [hclose]) (by simp [ht])) hne
        · cases heq

theorem over_move (h : T.Over) (hT : T.Sound) (hO : T.InOrder) (m : Move σ)
    (hm : T.Spares f m) : (T.move f m).Over := by
  intro id hid thread hthread hsession task ht
  -- the session had ended before, or it is this move that ends it
  have hgone : id ∈ T.state.sessions.gone ∨
      ∃ R : SessionRecord, .session R ∈ T.hands f m ∧ R.id = id := by
    rcases List.mem_append.1 ((gone_move f T m).mem_iff.1 hid) with hid | hid
    · exact .inl hid
    · obtain ⟨R, hR, hRid⟩ := List.mem_map.1 hid
      obtain ⟨r, hr, heq⟩ := List.mem_filterMap.1 hR
      cases r with
      | message record => cases heq
      | session record => exact .inr ⟨R, Option.some.inj heq ▸ hr, hRid⟩
  cases m with
  | connect _ _ _ | overrideConfig _ _ | elsewhere _ =>
    rcases hgone with hid | ⟨R, hR, -⟩
    · exact h id hid thread hthread hsession task ht
    · cases hR
  | call session c =>
    rcases hgone with hid | ⟨R, hR, -⟩
    · rcases List.mem_append.1 hthread with hthread | hthread
      · exact h id hid thread hthread hsession task ht
      · obtain rfl := List.mem_singleton.1 hthread
        obtain rfl : session = some id := hsession
        exact task_of_call_gone ((SessionTable.mem_gone_iff hT.distinct).1 hid).2 ht
    · cases hR
  | prune now =>
    rcases hgone with hid | ⟨R, hR, rfl⟩
    · exact h id hid thread hthread hsession task ht
    · obtain ⟨s, -, hs, -, ⟨_, _, heq, -⟩ | ⟨now', heq, hremoved⟩⟩ := session_of_hands hR
      · cases heq
      · cases heq
        rw [hs] at hsession
        rw [hm s hremoved thread hthread hsession] at ht
        cases ht
  | go i => exact h.go hT hO i hgone hthread hsession ht

theorem kept_of_moved (h : T.Over) (hT : T.Sound) {T' : Traffic σ} {m : Move σ}
    (hm : Moved f T m T') {id : Uuid} (hid : id ∈ T.state.sessions.gone) {s : Session}
    (hs : T.state.sessions.held? id = some s) :
    ∃ s', T'.state.sessions.held? id = some s' ∧ s'.messages = s.messages := by
  cases hm with
  | @connected _ _ _ state s₀ hid₀ hposition hmessages hserial hsessions =>
    refine ⟨s, ?_, rfl⟩
    have hne : s₀.id ≠ id := by
      rintro rfl
      exact hT.not_issued (hid₀ ▸ SessionTable.mem_ids_of_held? hs)
    show state.sessions.held? id = some s
    rw [hsessions, SessionTable.held?_insert (hid₀ ▸ hT.not_issued), if_neg hne, hs]
  | taken _ | replied _ | unknown => exact ⟨s, hs, rfl⟩
  | @went i thread task p state id₀ s₀ s' hi ht hthread hstep hs₀ ho hsessions =>
    have hheld := held?_of_outcome hs₀ ho hsessions id
    by_cases heq : id₀ = id
    · subst heq
      obtain rfl := Option.some.inj (hs.symm.trans hs₀)
      refine ⟨s', by rw [hheld, if_pos rfl], ?_⟩
      -- there is nothing left to do on the session but to answer
      obtain ⟨stage, reason, rfl⟩ := h id₀ hid thread (List.mem_of_getElem? hi) hthread task ht
      cases ho with
      | answered | ended _ => rfl
      | decided _ hq | panicked _ hq | asked _ hq => cases hq
      | awaited _ hq _ _ | judged _ hq _ => cases hq
    · exact ⟨s, by rw [hheld, if_neg heq, hs], rfl⟩
  | @answered i thread stage reason outcome state hi ht hstep hsessions =>
    exact ⟨s, by show state.sessions.held? id = some s; rw [hsessions, hs], rfl⟩
  | @aside _ state g hg hserial hsessions =>
    refine ⟨g s, ?_, (hg s).messages⟩
    show state.sessions.held? id = some (g s)
    rw [SessionTable.held?_of_map (fun s => (hg s).id) hsessions, hs]
    rfl

end

/-! ### Records handed over -/

/-- Moves, each with the traffic in which it is made. -/
def history (f : Filter σ) (T : Traffic σ) : List (Move σ) → List (Traffic σ × Move σ)
  | [] => []
  | m :: rest => (T, m) :: history f (T.move f m) rest

/-- All records that have been handed over, by `hands`, earliest first. -/
def records (f : Filter σ) (H : List (Traffic σ × Move σ)) : List Record :=
  H.flatMap fun x => x.1.hands f x.2

def messageRecords (f : Filter σ) (H : List (Traffic σ × Move σ)) : List MessageRecord :=
  (records f H).filterMap Record.message?

def sessionRecords (f : Filter σ) (H : List (Traffic σ × Move σ)) : List SessionRecord :=
  (records f H).filterMap Record.session?

/-- The records that have been handed over are those of messages that callbacks have `handed?` over, and
of the sessions that have ended. -/
structure Filed (f : Filter σ) (T : Traffic σ) (H : List (Traffic σ × Move σ)) : Prop where
  messages : messageRecords f H = T.log.filterMap Event.handed?
  sessions : ((sessionRecords f H).map (·.id)).Perm T.state.sessions.gone
  filed : ∀ x ∈ H, ∀ R : SessionRecord, .session R ∈ x.1.hands f x.2 → ∃ s s',
    x.1.state.sessions.find? R.id = some s ∧ T.state.sessions.held? R.id = some s' ∧
      R.messageIds = s.messageIds ∧ s'.messages = s.messages

section

variable {f : Filter σ} {T : Traffic σ} {H : List (Traffic σ × Move σ)}

theorem filed_start (f : Filter σ) (st : FilterState σ) : (start st).Filed f [] where
  messages := rfl
  sessions := .refl _
  filed := by
    rintro x ⟨⟩

theorem records_concat (f : Filter σ) (H : List (Traffic σ × Move σ)) (T : Traffic σ)
    (m : Move σ) : records f (H ++ [(T, m)]) = records f H ++ T.hands f m := by
  simp [records]

theorem handed_move (f : Filter σ) (T : Traffic σ) (m : Move σ) :
    (T.move f m).log.filterMap Event.handed?
      = T.log.filterMap Event.handed? ++ (T.hands f m).filterMap Record.message? := by
  cases m with
  | go i =>
    show (T.go f i).log.filterMap Event.handed? = _
    rcases T.go_over_or_task i with hover | ⟨thread, task, hi, ht⟩
    · rw [go_of_over hover, hands_go_over hover]
      simp
    · rw [go_of_task hi ht, hands_go hi ht]
      show (T.log ++ [_]).filterMap Event.handed? = _
      rw [filterMap_concat]
      congr 1
      cases task with
      | called id c =>
        cases c with
        | close =>
          simp [Event.handed?, Task.handed?, Task.hands, List.filterMap_map, Function.comp_def,
            Record.message?]
        | _ => rfl
      | _ => rfl
  | prune now =>
    simp [move, hands, List.filterMap_map, Function.comp_def, Record.message?]
  | _ => simp [move, hands]

theorem all_of_hands {m : Move σ} {R : SessionRecord} (h : .session R ∈ T.hands f m) :
    (T.move f m).state.sessions.all = T.state.sessions.all := by
  obtain ⟨s, -, -, -, ⟨i, thread, rfl, hi, ht⟩ | ⟨now, rfl, -⟩⟩ := session_of_hands h
  · show (T.go f i).state.sessions.all = _
    rw [go_of_task hi ht]
    show (T.state.leave f s.id).sessions.all = _
    rw [(Filter.leave_keeps f s.id T.state).1]
    exact SessionTable.all_removeWhere ..
  · show (T.state.prune f now).2.sessions.all = _
    rw [(Filter.prune_keeps f now T.state).1]
    exact SessionTable.all_removeWhere ..

theorem filed_move (h : T.Filed f H) (hT : T.Sound) (hover : T.Over) (m : Move σ) :
    (T.move f m).Filed f (H ++ [(T, m)]) where
  messages := by
    rw [messageRecords, records_concat, List.filterMap_append, handed_move, ← h.messages,
      messageRecords]
  sessions := by
    rw [sessionRecords, records_concat, List.filterMap_append, List.map_append]
    exact (h.sessions.append_right _).trans (gone_move f T m).symm
  filed := by
    intro x hx R hR
    rcases List.mem_append.1 hx with hx | hx
    · obtain ⟨s, s', hfind, hheld, hids, hsame⟩ := h.filed x hx R hR
      have hgone : R.id ∈ T.state.sessions.gone := by
        refine h.sessions.mem_iff.1 (List.mem_map.2 ⟨R, ?_, rfl⟩)
        exact List.mem_filterMap.2 ⟨.session R, List.mem_flatMap.2 ⟨x, hx, hR⟩, rfl⟩
      obtain ⟨s'', hheld', hsame'⟩ := kept_of_moved hover hT (moved_move f hT m) hgone hheld
      exact ⟨s, s'', hfind, hheld', hids, hsame'.trans hsame⟩
    · obtain rfl := List.mem_singleton.1 hx
      obtain ⟨s, hlive, hid, hids, -⟩ := session_of_hands hR
      refine ⟨s, s, ?_, ?_, hids, rfl⟩
      · rw [hid]
        exact SessionTable.find?_of_mem_live hT.distinct hlive
      · rw [hid, SessionTable.held?_eq, all_of_hands hR, ← SessionTable.held?_eq]
        exact SessionTable.held?_of_mem hT.distinct (SessionTable.mem_all_of_mem_live hlive)

/-- A move hands over its records and no others: those in `hands`. -/
theorem queue_move (f : Filter σ) (T : Traffic σ) (m : Move σ) :
    (∃ after, m = .elsewhere after) ∨
      (T.move f m).state.queue = (T.hands f m).foldl Queue.enqueue T.state.queue := by
  cases m with
  | elsewhere after => exact .inl ⟨after, rfl⟩
  | connect _ _ _ | call _ _ => exact .inr rfl
  | go i =>
    refine .inr ?_
    show (T.go f i).state.queue = _
    rcases T.go_over_or_task i with hover | ⟨thread, task, hi, ht⟩
    · rw [go_of_over hover, hands_go_over hover, List.foldl_nil]
    · rw [go_of_task hi ht, hands_go hi ht]
      exact Filter.queue_step f T.state task
  | prune now =>
    exact .inr (Filter.queue_evict f _
      { T.state with sessions := (T.state.sessions.removeExpired f.maxAgeSecs now).2 })
  | overrideConfig id config =>
    refine .inr ?_
    show (T.state.overrideConfig id config).queue = _
    unfold FilterState.overrideConfig
    split <;> rfl

/-! ### Runs -/

/-- Traffic in which everything is done `InTurn`, with what has been handed over in it. -/
structure InStep (f : Filter σ) (T : Traffic σ) (H : List (Traffic σ × Move σ)) : Prop where
  sound : T.Sound
  inOrder : T.InOrder
  apart : T.Apart
  traced : T.Traced f
  latest : T.Latest
  owned : T.Owned
  tidy : T.Tidy
  atRest : T.Over
  filed : T.Filed f H

theorem inStep_start (f : Filter σ) (st : FilterState σ) : (start st).InStep f [] where
  sound := sound_start st
  inOrder := inOrder_start st
  apart := apart_start st
  traced := traced_start f st
  latest := latest_start st
  owned := owned_start st
  tidy := tidy_start st
  atRest := by
    intro id hid
    cases hid
  filed := filed_start f st

theorem inStep_run (h : T.InStep f H) {moves : List (Move σ)} (hmoves : T.InTurn f moves) :
    (T.run f moves).InStep f (H ++ history f T moves) := by
  induction moves generalizing T H with
  | nil =>
    rw [history, List.append_nil]
    exact h
  | cons m rest ih =>
    obtain ⟨hadmits, hspares, hrest⟩ := hmoves
    have hm := moved_move f h.sound m
    have hstep : (T.move f m).InStep f (H ++ [(T, m)]) :=
      { sound := sound_of_moved h.sound hm
        inOrder := inOrder_of_moved h.sound h.inOrder hadmits hm
        apart := apart_of_moved h.sound h.apart hm
        traced := traced_of_moved h.traced hm
        latest := latest_move f h.latest m hadmits
        owned := owned_of_moved h.owned h.sound h.traced hm
        tidy := tidy_of_moved h.tidy h.sound h.apart h.traced h.latest hm
        atRest := over_move h.atRest h.sound h.inOrder m hspares
        filed := filed_move h.filed h.sound h.atRest m }
    have hall := ih hstep hrest
    rwa [List.append_assoc] at hall

/-! ### Records in agreement -/

/-- The work of the callback at the place `i` has been cut short, by its `account`. -/
def failed (T : Traffic σ) (i : Nat) : Bool :=
  (account (T.eventsOf i)).isInterrupted

/-- What the records of sessions and messages that have been handed over say, in traffic `T` that has
come about by the moves in `H`. -/
structure Consistent (f : Filter σ) (T : Traffic σ) (H : List (Traffic σ × Move σ)) : Prop where
  /-- An end of a message that is over has handed over one record, of a message of its session, unless
  it has failed; then it has handed over none. -/
  eom : ∀ (i : Nat) (thread : Thread σ), T.threads[i]? = some thread →
    thread.callback.stage = .eom → thread.progress.task? = none →
    if T.failed i then T.handedBy i = []
    else ∃ record, T.handedBy i = [record] ∧ thread.session = some record.session
  /-- No other callback has handed over the record of a message. -/
  other : ∀ (i : Nat) (thread : Thread σ), T.threads[i]? = some thread →
    thread.callback.stage ≠ .eom ∨ thread.progress.task? ≠ none → T.handedBy i = []
  /-- The records of the messages of a session are those that its callbacks have handed over, in the
  order of the callbacks. -/
  messages : ∀ id, (messageRecords f H).filter (fun r => r.session = id) = T.messagesOf id
  /-- No two records have an identifier in common. -/
  ids : ((records f H).map Record.id).Nodup
  /-- There is one record of each session that has ended, and none of any other. -/
  ended : ∀ id, ((sessionRecords f H).map (·.id)).count id
    = if id ∈ T.state.sessions.ids ∧ T.state.sessions.find? id = none then 1 else 0
  /-- The record of a session has the identifiers of the records of its messages, in their order, and
  then that of the message that was open when the session ended, if there was one. -/
  course : ∀ R ∈ sessionRecords f H, R.messageIds.Nodup ∧
    ∃ x ∈ H, .session R ∈ x.1.hands f x.2 ∧ ∃ s, x.1.state.sessions.find? R.id = some s ∧
      R.messageIds = (T.messagesOf R.id).map (·.id) ++ (s.current?.map (·.id)).toList
  /-- A message that has been abandoned is in no record. -/
  abandoned : ∀ m ∈ T.abandoned, (∀ r ∈ messageRecords f H, r.id ≠ m.id) ∧
    ∀ R ∈ sessionRecords f H, m.id ∉ R.messageIds
  /-- To hand over records is to add them to the queue, one after the other. -/
  queue : ∀ x ∈ H, (∃ after, x.2 = .elsewhere after) ∨
    (x.1.move f x.2).state.queue = (x.1.hands f x.2).foldl Queue.enqueue x.1.state.queue

theorem handedBy_eq (T : Traffic σ) (i : Nat) :
    T.handedBy i = (account (T.eventsOf i)).handed.map (·.2) :=
  List.map_filterMap.symm

theorem recordedBy_eq (T : Traffic σ) (i : Nat) :
    (T.eventsOf i).filterMap Event.recorded? = (account (T.eventsOf i)).recorded.map (·.2) :=
  List.map_filterMap.symm

/-- Elements with a common `key` have different images if those with one key each have. -/
theorem nodup_map_of_filter {α β γ : Type} [DecidableEq β] {l : List α} (key : α → β) (g : α → γ)
    (hfilter : ∀ b, ((l.filter fun x => key x = b).map g).Nodup)
    (hkey : ∀ x ∈ l, ∀ y ∈ l, g x = g y → key x = key y) : (l.map g).Nodup := by
  induction l with
  | nil => exact List.nodup_nil
  | cons a rest ih =>
    rw [List.map_cons, List.nodup_cons]
    refine ⟨fun hmem => ?_, ih (fun b => ?_) fun x hx y hy =>
      hkey x (List.mem_cons_of_mem _ hx) y (List.mem_cons_of_mem _ hy)⟩
    · obtain ⟨y, hy, heq⟩ := List.mem_map.1 hmem
      have hsame := hkey y (List.mem_cons_of_mem _ hy) a List.mem_cons_self heq
      have hnodup := hfilter (key a)
      rw [List.filter_cons_of_pos (by simp), List.map_cons, List.nodup_cons] at hnodup
      exact hnodup.1 (heq ▸ List.mem_map_of_mem (List.mem_filter.2 ⟨hy, by simp [hsame]⟩))
    · exact (hfilter b).sublist (((List.sublist_cons_self a rest).filter _).map g)

namespace InStep

/-- Whatever a callback has handed over, in `handedBy`, has been recorded. -/
theorem handedBy_sublist (h : T.InStep f H) (i : Nat) :
    (T.handedBy i).Sublist ((T.eventsOf i).filterMap Event.recorded?) := by
  rw [handedBy_eq, recordedBy_eq]
  refine List.Sublist.map _ ?_
  cases hi : T.threads[i]? with
  | none =>
    rw [h.traced.eventsOf_eq_nil hi]
    exact .slnil
  | some thread =>
    rw [(h.traced.owes i thread hi).handed_eq]
    split
    · exact .refl _
    · exact List.nil_sublist _

theorem messages (h : T.InStep f H) (id : Uuid) :
    (messageRecords f H).filter (fun r => r.session = id) = T.messagesOf id := by
  rw [h.filed.messages, h.tidy.messages]

/-- A record that has been handed over is of a message with a verdict, which is among the `concludedIds`
of its session. -/
theorem mem_concludedIds (h : T.InStep f H) {r : MessageRecord} (hr : r ∈ messageRecords f H) :
    ∃ s, T.state.sessions.held? r.session = some s ∧ r.id ∈ s.concludedIds := by
  -- the callback that has handed it over had recorded it
  have hmem : r ∈ T.recordedOf r.session := by
    refine (gathered_sublist h.handedBy_sublist).subset ?_
    show r ∈ T.messagesOf r.session
    rw [← h.messages]
    exact List.mem_filter.2 ⟨hr, by simp⟩
  have hid : r.session ∈ T.state.sessions.ids := by
    refine Decidable.not_not.1 fun hid => ?_
    rw [h.tidy.unknown _ hid] at hmem
    cases hmem
  obtain ⟨s, hs⟩ := SessionTable.exists_held?_of_mem hid
  refine ⟨s, hs, ?_⟩
  rw [h.tidy.concluded _ s hs]
  exact List.mem_map_of_mem hmem

theorem nodup_messages (h : T.InStep f H) : ((messageRecords f H).map (·.id)).Nodup := by
  refine nodup_map_of_filter MessageRecord.session MessageRecord.id (fun id => ?_)
    fun r hr r' hr' heq => ?_
  · rw [h.messages]
    refine List.Nodup.sublist ((gathered_sublist h.handedBy_sublist).map _) ?_
    show ((T.recordedOf id).map (·.id)).Nodup
    by_cases hid : id ∈ T.state.sessions.ids
    · obtain ⟨s, hs⟩ := SessionTable.exists_held?_of_mem hid
      rw [← h.tidy.concluded id s hs]
      exact (h.apart.nodup id s hs).sublist s.concludedIds_sublist
    · rw [h.tidy.unknown id hid]
      exact List.nodup_nil
  · obtain ⟨s, hs, hmem⟩ := h.mem_concludedIds hr
    obtain ⟨s', hs', hmem'⟩ := h.mem_concludedIds hr'
    exact h.apart.owner _ s _ s' hs hs' r.id (s.concludedIds_sublist.subset hmem)
      (s'.concludedIds_sublist.subset (heq ▸ hmem'))

/-- When all callbacks on a session are over, its messages with a verdict are those whose records have
been handed over: `recordedOf` and `messagesOf` are the same. -/
theorem messagesOf_eq (h : T.InStep f H) {id : Uuid}
    (hover : ∀ thread ∈ T.threads, thread.session = some id → ∀ task,
      thread.progress.task? = some task →
        ∃ stage reason, task = .interrupted stage (some id) reason) :
    T.messagesOf id = T.recordedOf id := by
  unfold messagesOf recordedOf gather
  refine gathered_congr fun i hi => ?_
  rw [List.getElem?_map, Option.map_eq_some_iff] at hi
  obtain ⟨thread, hi, hsession⟩ := hi
  have howes := h.traced.owes i thread hi
  show T.handedBy i = _
  rw [handedBy_eq, recordedBy_eq, howes.handed_eq]
  cases ht : thread.progress.task? with
  | none => rfl
  | some task =>
    obtain ⟨stage, reason, rfl⟩ := hover thread (List.mem_of_getElem? hi) hsession task ht
    have hnone : account (T.eventsOf i) = {} := howes.of_task ht
    rw [hnone]
    rfl

/-- The record of a session that has ended: its messages that have records of their own, by `messagesOf`,
and the one that was open. -/
theorem course (h : T.InStep f H) {R : SessionRecord} (hR : R ∈ sessionRecords f H) :
    ∃ s', T.state.sessions.held? R.id = some s' ∧ R.messageIds = s'.messageIds ∧
    ∃ x ∈ H, .session R ∈ x.1.hands f x.2 ∧ ∃ s, x.1.state.sessions.find? R.id = some s ∧
      R.messageIds = (T.messagesOf R.id).map (·.id) ++ (s.current?.map (·.id)).toList := by
  obtain ⟨r, hr, heq⟩ := List.mem_filterMap.1 hR
  obtain rfl : r = .session R := by
    cases r with
    | message _ => cases heq
    | session _ => exact congrArg Record.session (Option.some.inj heq)
  obtain ⟨x, hx, hhands⟩ := List.mem_flatMap.1 hr
  obtain ⟨s, s', hfind, hheld, hids, hsame⟩ := h.filed.filed x hx R hhands
  have hgone : R.id ∈ T.state.sessions.gone :=
    h.filed.sessions.mem_iff.1 (List.mem_map_of_mem hR)
  have hids' : R.messageIds = s'.messageIds := by
    rw [hids, Session.messageIds, Session.messageIds, hsame]
  refine ⟨s', hheld, hids', x, hx, hhands, s, hfind, ?_⟩
  calc R.messageIds
    _ = s'.messageIds := hids'
    _ = s'.concludedIds ++ (s'.current?.map (·.id)).toList :=
      Session.messageIds_eq (h.inOrder.settled R.id s' hheld)
    _ = (T.recordedOf R.id).map (·.id) ++ (s.current?.map (·.id)).toList := by
      rw [h.tidy.concluded R.id s' hheld, Session.current?_congr hsame]
    _ = (T.messagesOf R.id).map (·.id) ++ (s.current?.map (·.id)).toList := by
      rw [h.messagesOf_eq (h.atRest R.id hgone)]

theorem eom (h : T.InStep f H) {i : Nat} {thread : Thread σ} (hi : T.threads[i]? = some thread)
    (hstage : thread.callback.stage = .eom) (hdone : thread.progress.task? = none) :
    if T.failed i then T.handedBy i = []
    else ∃ record, T.handedBy i = [record] ∧ thread.session = some record.session := by
  have howes := h.traced.owes i thread hi
  rw [failed, handedBy_eq]
  cases hp : thread.progress with
  | next task | waiting _ task =>
    rw [hp] at hdone
    cases hdone
  | done outcome =>
    rw [hp] at howes
    rcases howes with ⟨r, record, -, haccount⟩ | haccount | ⟨hne, -⟩
    · rw [haccount]
      refine ⟨record, rfl, ?_⟩
      -- the event that has handed the record over is one of this callback
      have hmem : (r, record) ∈ (T.eventsOf i).filterMap (·.task.handed?) := by
        rw [show (T.eventsOf i).filterMap (·.task.handed?) = [(r, record)] from
          congrArg Account.handed haccount]
        exact List.mem_singleton.2 rfl
      have hmem' : (r, record) ∈ (T.eventsOf i).filterMap Event.concluded? := by
        rw [show (T.eventsOf i).filterMap Event.concluded? = [(r, record)] from
          congrArg Account.recorded haccount]
        exact List.mem_singleton.2 rfl
      obtain ⟨e, he, hhanded⟩ := List.mem_filterMap.1 hmem
      obtain ⟨e', he', hconcluded⟩ := List.mem_filterMap.1 hmem'
      obtain ⟨hlog, hthread⟩ := List.mem_filter.1 he
      obtain rfl : e.thread = i := of_decide_eq_true hthread
      have hown := (h.owned.done e hlog thread hi).1
      have hnamed : record.session = r.session :=
        h.tidy.named (r, record) (List.mem_filterMap.2 ⟨e', List.mem_of_mem_filter he', hconcluded⟩)
      have htold : e.task = .told r record := by
        cases htask : e.task with
        | told r' record' =>
          rw [htask] at hhanded
          cases hhanded
          rfl
        | _ =>
          rw [htask] at hhanded
          cases hhanded
      rw [htold] at hown
      rw [← hown, hnamed]
      rfl
    · rw [haccount]
      rfl
    · exact absurd hstage hne

/-- Only ends of messages that are over have handed anything over: `handedBy` is empty for all else. -/
theorem other (h : T.InStep f H) {i : Nat} {thread : Thread σ} (hi : T.threads[i]? = some thread)
    (hother : thread.callback.stage ≠ .eom ∨ thread.progress.task? ≠ none) :
    T.handedBy i = [] := by
  rcases hother with hstage | hunder
  · refine List.filterMap_eq_nil_iff.2 fun e he => ?_
    obtain ⟨hlog, hthread⟩ := List.mem_filter.1 he
    obtain rfl : e.thread = i := of_decide_eq_true hthread
    have hbelongs := (h.owned.done e hlog thread hi).2
    rw [Option.eq_none_iff_forall_ne_some]
    intro record hrecord
    obtain ⟨r, htold⟩ := Event.handed?_eq_some.1 hrecord
    rw [htold] at hbelongs
    exact hstage hbelongs
  · rw [handedBy_eq, (h.traced.owes i thread hi).handed_eq, if_neg (by simpa using hunder),
      List.map_nil]

theorem nodup_ids (h : T.InStep f H) : ((records f H).map Record.id).Nodup := by
  refine (Record.map_id_perm _).nodup_iff.2 (List.nodup_append.2 ⟨h.nodup_messages, ?_, ?_⟩)
  · exact h.filed.sessions.nodup_iff.2 (SessionTable.gone_nodup h.sound.distinct)
  · -- no message has the identifier of a session
    rintro i hi j hj rfl
    obtain ⟨r, hr, rfl⟩ := List.mem_map.1 hi
    obtain ⟨s, hs, hmem⟩ := h.mem_concludedIds hr
    exact h.tidy.foreign _ s hs r.id (s.concludedIds_sublist.subset hmem)
      (T.state.sessions.gone_sublist_ids.subset (h.filed.sessions.mem_iff.1 hj))

end InStep

end

/-- **The records of sessions and of their messages are `Consistent`**, as long as each callback is over
before the next one on the same session, and before the session is swept away. -/
theorem records_consistent (f : Filter σ) (st : FilterState σ) (moves : List (Move σ))
    (h : (start st).InTurn f moves) :
    ((start st).run f moves).Consistent f (history f (start st) moves) := by
  have hall : ((start st).run f moves).InStep f (history f (start st) moves) :=
    inStep_run (inStep_start f st) h
  constructor
  case eom => exact fun i thread hi hstage hdone => hall.eom hi hstage hdone
  case other => exact fun i thread hi hother => hall.other hi hother
  case messages => exact hall.messages
  case ids => exact hall.nodup_ids
  case ended =>
    intro id
    rw [hall.filed.sessions.count_eq, (SessionTable.gone_nodup hall.sound.distinct).count]
    simp only [SessionTable.mem_gone_iff hall.sound.distinct]
  case course =>
    intro R hR
    obtain ⟨s', hheld, hids, hcourse⟩ := hall.course hR
    exact ⟨hids ▸ hall.apart.nodup R.id s' hheld, hcourse⟩
  case abandoned =>
    intro m hm
    obtain ⟨-, habsent⟩ := hall.tidy.abandoned m hm
    refine ⟨fun r hr heq => ?_, fun R hR => ?_⟩
    · obtain ⟨s, hs, hmem⟩ := hall.mem_concludedIds hr
      exact habsent _ s hs (heq ▸ s.concludedIds_sublist.subset hmem)
    · obtain ⟨s', hheld, hids, -⟩ := hall.course hR
      exact hids ▸ habsent _ s' hheld
  case queue => exact fun x _ => queue_move f x.1 x.2

/-- One client has a message judged, begins a second one and abandons it, and begins a third one,
while another client leaves in the middle of a message; then the first one is swept away. -/
def swept : List (Move Unit) :=
  [.connect none none none, .connect none none none,
    .call (some (Uuid.issued 0)) (.envFrom ["<a@example.org>"] {}), .go 0,
    .call (some (Uuid.issued 1)) (.envFrom ["<b@example.org>"] {}), .go 1,
    .call (some (Uuid.issued 0)) (.envRcpt ["<c@example.com>"]), .go 2, .go 2, .go 2,
    .call (some (Uuid.issued 0)) (.eom none), .go 3, .go 3, .go 3, .go 3, .go 3,
    .call (some (Uuid.issued 0)) (.envFrom ["<a@example.org>"] {}), .go 4,
    .call (some (Uuid.issued 0)) .abort, .go 5,
    .call (some (Uuid.issued 1)) .close, .go 6,
    .call (some (Uuid.issued 0)) (.envFrom ["<a@example.org>"] {}), .go 7,
    .prune { nanos := 1000 * Timestamp.second }]

/-- The first client of `swept` has a message with a verdict and an open one in its record, and not the
one that it has abandoned. -/
theorem records_consistent_swept :
    let T := start (.blank {})
    T.InTurn .bare swept ∧ (T.run .bare swept).Consistent .bare (history .bare T swept) ∧
      (sessionRecords .bare (history .bare T swept)).map (fun R => (R.id, R.messageIds))
        = [(Uuid.issued 1, [Uuid.issued 3]), (Uuid.issued 0, [Uuid.issued 2, Uuid.issued 8])] := by
  intro T
  have hmoves : T.InTurn .bare swept := by decide +kernel
  exact ⟨hmoves, records_consistent .bare (.blank {}) swept hmoves, by decide +kernel⟩

end Traffic

end MailFilter
