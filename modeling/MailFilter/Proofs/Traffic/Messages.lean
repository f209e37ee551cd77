/-
The messages of a session and the records there are of them, in traffic in which callbacks on one
session come one after the other.

A message gets its verdict in one task of the callback that judges it, and its record is handed over in
a later one. What each callback on a session comes to is put together in the order in which the
callbacks have been taken; as only the last of them is not over, whatever happens is added at the end.

* `gathered_grow`: what the last part grows by is added at the end;
* `latest_move`: all callbacks on a session but the last are over;
* `owned_of_moved`: every callback comes to tasks of its own only;
* `tidy_of_moved`: the messages with a verdict are those whose records callbacks have made.
-/
import Mathlib.Data.List.Induction
import MailFilter.Proofs.Traffic.Filing
import MailFilter.Proofs.Traffic.Settings

namespace MailFilter

variable {σ : Type}

/-! ### In the order of their owners -/

/-- The parts of the owner `a` joined in their order, when there is one part for each of
the `owners`. -/
def gathered {α β : Type} [DecidableEq α] (owners : List α) (a : α) (part : Nat → List β) :
    List β :=
  owners.zipIdx.flatMap fun x => if x.1 = a then part x.2 else []

section

variable {α β : Type} [DecidableEq α] {owners : List α} {a : α} {part part' : Nat → List β}

theorem gathered_concat (owners : List α) (b : α) :
    gathered (owners ++ [b]) a part
      = gathered owners a part ++ if b = a then part owners.length else [] := by
  simp [gathered, List.zipIdx_append]

theorem gathered_congr (h : ∀ i, owners[i]? = some a → part' i = part i) :
    gathered owners a part' = gathered owners a part := by
  rw [gathered, gathered, List.flatMap_def, List.flatMap_def]
  refine congrArg List.flatten (List.map_congr_left fun x hx => ?_)
  split
  · next hxa => exact h x.2 (hxa ▸ List.mem_zipIdx_iff_getElem?.1 hx)
  · rfl

theorem gathered_grow {i : Nat} {new : List β} (hi : owners[i]? = some a)
    (hlast : ∀ j, i < j → owners[j]? ≠ some a) (hpart : part' i = part i ++ new)
    (hother : ∀ j, j ≠ i → part' j = part j) :
    gathered owners a part' = gathered owners a part ++ new := by
  induction owners using List.reverseRecOn with
  | nil => simp at hi
  | append_singleton init b ih =>
    rw [gathered_concat, gathered_concat]
    rcases Traffic.getElem?_concat_iff.1 hi with hi' | ⟨rfl, rfl⟩
    · have hlt := (List.getElem?_eq_some_iff.1 hi').1
      have hb : b ≠ a := by
        rintro rfl
        exact hlast init.length hlt (Traffic.getElem?_concat_iff.2 (.inr ⟨rfl, rfl⟩))
      rw [ih hi' fun j hij hj => hlast j hij (Traffic.getElem?_concat_iff.2 (.inl hj)), if_neg hb,
        if_neg hb, List.append_nil, List.append_nil]
    · -- the parts before the last one are as they were
      have hsame : gathered init b part' = gathered init b part :=
        gathered_congr fun j hj => hother j (Nat.ne_of_lt (List.getElem?_eq_some_iff.1 hj).1)
      rw [hsame, if_pos rfl, if_pos rfl, hpart, List.append_assoc]

theorem gathered_sublist (h : ∀ i, (part' i).Sublist (part i)) :
    (gathered owners a part').Sublist (gathered owners a part) := by
  induction owners using List.reverseRecOn with
  | nil => exact .slnil
  | append_singleton init b ih =>
    rw [gathered_concat, gathered_concat]
    refine ih.append ?_
    split
    · exact h init.length
    · exact .slnil

end

namespace Traffic

/-! ### Callbacks one after the other -/

theorem go_over_or_task (T : Traffic σ) (i : Nat) :
    (∀ t, T.threads[i]? = some t → t.progress.task? = none) ∨
      ∃ thread task, T.threads[i]? = some thread ∧ thread.progress.task? = some task := by
  cases hi : T.threads[i]? with
  | none => exact .inl (by rintro t ⟨⟩)
  | some thread =>
    cases ht : thread.progress.task? with
    | none =>
      left
      rintro t ⟨⟩
      exact ht
    | some task => exact .inr ⟨thread, task, rfl, ht⟩

/-- Of two callbacks on a session, the earlier one is over: it has no `task?` left. -/
def Latest (T : Traffic σ) : Prop :=
  ∀ (i j : Nat) (t u : Thread σ) (id : Uuid), i < j → T.threads[i]? = some t →
    T.threads[j]? = some u → t.session = some id → u.session = some id → t.progress.task? = none

theorem latest_start (st : FilterState σ) : (start st).Latest := by
  intro i j t u id _ hi
  simp [start] at hi

theorem latest_move (f : Filter σ) {T : Traffic σ} (h : T.Latest) (m : Move σ) (hm : T.Admits m) :
    (T.move f m).Latest := by
  cases m with
  | connect _ _ _ | prune _ | overrideConfig _ _ | elsewhere _ => exact h
  | call session c =>
    intro i j t u id hij hi hj ht hu
    rcases getElem?_concat_iff.1 hj with hj | ⟨rfl, rfl⟩
    · rcases getElem?_concat_iff.1 hi with hi | ⟨rfl, -⟩
      · exact h i j t u id hij hi hj ht hu
      · have hlt := (List.getElem?_eq_some_iff.1 hj).1
        omega
    · -- a callback is taken on an idle session only
      rcases getElem?_concat_iff.1 hi with hold | ⟨rfl, -⟩
      · obtain rfl : session = some id := hu
        exact hm t (List.mem_of_getElem? hold) ht
      · omega
  | go k =>
    show (T.go f k).Latest
    rcases T.go_over_or_task k with hover | ⟨thread, task, hk, ht⟩
    · rwa [go_of_over hover]
    · rw [go_of_task hk ht]
      intro i j t u id hij hi hj hti huj
      rcases (getElem?_set_iff hk).1 hi with ⟨rfl, rfl⟩ | ⟨-, hi⟩
      · rcases (getElem?_set_iff hk).1 hj with ⟨heq, -⟩ | ⟨-, hj⟩
        · omega
        · -- a callback that goes on is the last one
          rw [h k j thread u id hij hk hj hti huj] at ht
          cases ht
      · rcases (getElem?_set_iff hk).1 hj with ⟨rfl, rfl⟩ | ⟨-, hj⟩
        · exact h i k t thread id hij hi hk hti huj
        · exact h i j t u id hij hi hj hti huj

/-- What each event of each callback on the session `id` comes to by `part`, in the order in which the
callbacks have been taken. -/
def gather {β : Type} (T : Traffic σ) (id : Uuid) (part : Event σ → Option β) : List β :=
  gathered (T.threads.map (·.session)) (some id) fun i => (T.eventsOf i).filterMap part

/-- What has not done anything yet adds nothing to what `gather` finds. -/
theorem gather_call {β : Type} {f : Filter σ} {T : Traffic σ} (hT : T.Traced f)
    (thread : Thread σ) (id : Uuid) (part : Event σ → Option β) :
    ({ T with threads := T.threads ++ [thread] } : Traffic σ).gather id part
      = T.gather id part := by
  have hnone : T.eventsOf T.threads.length = [] := by
    refine List.filter_eq_nil_iff.2 fun e he => ?_
    have hne : e.thread ≠ T.threads.length := Nat.ne_of_lt (hT.taken e he)
    simpa using hne
  have hevents : ∀ i, ({ T with threads := T.threads ++ [thread] } : Traffic σ).eventsOf i
      = T.eventsOf i := fun _ => rfl
  simp only [gather, hevents, List.map_append, List.map_cons, List.map_nil, gathered_concat,
    List.length_map, hnone, List.filterMap_nil, ite_self, List.append_nil]

/-- What a callback comes to adds to the others on its session at the end of what `gather` finds, if it
is the latest one. -/
theorem gather_extend {β : Type} {T : Traffic σ} (h : T.Latest) {i : Nat} {thread : Thread σ}
    (hi : T.threads[i]? = some thread) (ht : thread.progress.task? ≠ none) (e : Event σ)
    (he : e.thread = i) (p : Progress σ) (id : Uuid) (part : Event σ → Option β) :
    (T.extend e (T.threads.set i { thread with progress := p })).gather id part
      = T.gather id part ++ if thread.session = some id then (part e).toList else [] := by
  have howners : (T.threads.set i { thread with progress := p }).map (·.session)
      = T.threads.map (·.session) := by
    refine List.ext_getElem? fun j => ?_
    rw [List.getElem?_map, List.getElem?_map, List.getElem?_set]
    split
    · next hij =>
      subst hij
      split
      · rw [hi]
        rfl
      · rw [List.getElem?_eq_none (by omega)]
    · rfl
  have hpart : ∀ j, ((T.extend e (T.threads.set i { thread with progress := p })).eventsOf
      j).filterMap part
      = (T.eventsOf j).filterMap part ++ if j = i then (part e).toList else [] := by
    intro j
    rw [eventsOf_extend, he]
    by_cases hij : i = j
    · rw [if_pos hij, if_pos hij.symm, List.filterMap_append]
      cases hp : part e <;> simp [hp]
    · rw [if_neg hij, if_neg (Ne.symm hij), List.append_nil]
  show gathered ((T.threads.set i { thread with progress := p }).map (·.session)) (some id) _ = _
  rw [howners]
  by_cases hsession : thread.session = some id
  · rw [if_pos hsession]
    -- the callback is the last one of its session, for one before it would be over
    refine gathered_grow (i := i) ?_ (fun j hij hj => ?_) ?_ fun j hij => ?_
    · rw [List.getElem?_map, hi, Option.map_some, hsession]
    · rw [List.getElem?_map, Option.map_eq_some_iff] at hj
      obtain ⟨u, hj, hu⟩ := hj
      exact ht (h i j thread u id hij hi hj hsession hu)
    · rw [hpart, if_pos rfl]
    · rw [hpart, if_neg hij, List.append_nil]
  · rw [if_neg hsession, List.append_nil]
    refine gathered_congr fun j hj => ?_
    have hij : j ≠ i := by
      rintro rfl
      rw [List.getElem?_map, hi, Option.map_some, Option.some.injEq] at hj
      exact hsession hj
    rw [hpart, if_neg hij, List.append_nil]

/-! ### Tasks of a callback -/

end Traffic

/-- The task is one that the callback `c` may come to: only the end of a message is judged. -/
def Task.Belongs (c : Callback) : Task σ → Prop
  | called _ c' => c' = c
  | complete .. | judging .. | ruled _ | concluded .. | told .. => c.stage = .eom
  | asking .. | gating .. | gated .. | interrupted .. => True

theorem Task.Outcome.belongs {f : Filter σ} {st : FilterState σ} {id : Uuid} {s s' : Session}
    {task task' : Task σ} {p : Progress σ} {c : Callback} (ho : task.Outcome f st id s p s')
    (h : task.Belongs c) (hp : p.task? = some task') : task'.Belongs c := by
  -- whatever is judged has come from the end of a message
  have hmatter : ∀ {q}, task.matter? = some q → c.stage = .eom := by
    intro q hq
    cases task with
    | complete _ _ _ | judging _ _ _ _ => exact h
    | _ => cases hq
  cases ho with
  | followed hc he =>
    obtain rfl : _ = c := h
    unfold Filter.follow at hp
    split at hp
    · cases hp
      trivial
    · split at hp
      · cases hp
        rfl
      · cases hp
        trivial
    · cases hp
  | awaited _ hm _ _ | judged _ hm _ =>
    cases hp
    exact hmatter hm
  | concluded _ _ _ _ | noted _ =>
    cases hp
    exact h
  | failed _ _ | decided _ _ | panicked _ _ | asked _ _ | missed _ | lost _ _ =>
    cases hp
    trivial
  | closed | refused _ | accepted _ | handed _ | answered | ended _ => cases hp

namespace Traffic

/-- Every task that a callback comes to `Belongs` to it, and is on its session. -/
structure Owned (T : Traffic σ) : Prop where
  pending : ∀ (i : Nat) (thread : Thread σ) (task : Task σ), T.threads[i]? = some thread →
    thread.progress.task? = some task → task.Belongs thread.callback
  done : ∀ e ∈ T.log, ∀ thread, T.threads[e.thread]? = some thread →
    e.task.session? = thread.session ∧ e.task.Belongs thread.callback

theorem owned_start (st : FilterState σ) : (start st).Owned where
  pending := by
    intro i thread task hi
    simp [start] at hi
  done := by
    intro e he
    cases he

theorem Owned.call {f : Filter σ} {T : Traffic σ} (h : T.Owned) (hT : T.Traced f)
    {session : Option Uuid} {c : Callback} {p : Progress σ}
    (hp : ∀ task, p.task? = some task → task.Belongs c) :
    ({ T with threads := T.threads ++ [⟨session, c, p⟩] } : Traffic σ).Owned where
  pending := by
    intro i thread task hi ht
    rcases getElem?_concat_iff.1 hi with hi | ⟨-, rfl⟩
    · exact h.pending i thread task hi ht
    · exact hp task ht
  done := by
    intro e he thread hi
    have hlt := hT.taken e he
    rcases getElem?_concat_iff.1 hi with hi | ⟨heq, -⟩
    · exact h.done e he thread hi
    · omega

theorem Owned.extend {T : Traffic σ} (h : T.Owned) (hT : T.Sound) {i : Nat} {thread : Thread σ}
    {task : Task σ} {p : Progress σ} {state : FilterState σ} (hi : T.threads[i]? = some thread)
    (ht : thread.progress.task? = some task)
    (hp : ∀ task', p.task? = some task' → task'.Belongs thread.callback) :
    (T.extend ⟨i, task, T.state, p, state⟩
      (T.threads.set i { thread with progress := p })).Owned where
  pending := by
    intro j t task' hj ht'
    rcases (getElem?_set_iff hi).1 hj with ⟨-, rfl⟩ | ⟨-, hj⟩
    · exact hp task' ht'
    · exact h.pending j t task' hj ht'
  done := by
    intro e he t hj
    rcases List.mem_append.1 he with he | he
    · rcases (getElem?_set_iff hi).1 hj with ⟨heq, rfl⟩ | ⟨-, hj⟩
      · exact h.done e he thread (heq ▸ hi)
      · exact h.done e he t hj
    · obtain rfl := List.mem_singleton.1 he
      rcases (getElem?_set_iff hi).1 hj with ⟨-, rfl⟩ | ⟨hne, -⟩
      · exact ⟨hT.session i thread task hi ht, h.pending i thread task hi ht⟩
      · exact absurd rfl hne

theorem owned_of_moved {f : Filter σ} {T T' : Traffic σ} {m : Move σ} (h : T.Owned)
    (hT : T.Sound) (htraced : T.Traced f) (hm : Moved f T m T') : T'.Owned := by
  cases hm with
  | connected _ _ _ _ _ | aside _ _ _ _ => exact ⟨h.pending, h.done⟩
  | taken hid =>
    refine h.call htraced ?_
    rintro task ⟨⟩
    rfl
  | replied hc => exact h.call htraced (by rintro task ⟨⟩)
  | unknown =>
    refine h.call htraced ?_
    rintro task ⟨⟩
    trivial
  | went hi ht hid hstep hs ho hsessions =>
    exact h.extend hT hi ht fun _ => ho.belongs (h.pending _ _ _ hi ht)
  | answered hi ht hstep hsessions => exact h.extend hT hi ht (by rintro task ⟨⟩)

/-! ### Messages and their records -/

/-- The record of a message that gets its verdict, as `concluded?` has it. -/
def Event.recorded? (e : Event σ) : Option MessageRecord :=
  e.concluded?.map (·.2)

/-- The record of a message that is handed over, as `Task.handed?` has it. -/
def Event.handed? (e : Event σ) : Option MessageRecord :=
  e.task.handed?.map (·.2)

/-- The message that is abandoned: the open one, when the client says so. -/
def Event.abandoned? (e : Event σ) : Option Message :=
  match e.task with
  | .called id .abort => (e.before.sessions.held? id).bind Session.current?
  | _ => none

/-- The records of messages that the callback at the place `i` has handed over: `handed?`
of its events. -/
def handedBy (T : Traffic σ) (i : Nat) : List MessageRecord :=
  (T.eventsOf i).filterMap Event.handed?

/-- The records of messages that the callbacks on the session `id` have handed over, in the order in
which the callbacks have been taken. -/
def messagesOf (T : Traffic σ) (id : Uuid) : List MessageRecord :=
  T.gather id Event.handed?

/-- The records of the messages that have got their verdicts, in the order of `messagesOf`. -/
def recordedOf (T : Traffic σ) (id : Uuid) : List MessageRecord :=
  T.gather id Event.recorded?

/-- The messages that have been abandoned, by the `log`. -/
def abandoned (T : Traffic σ) : List Message :=
  T.log.filterMap Event.abandoned?

/-- The messages of all sessions agree with the records there are of them, those in `recordedOf` and
those in `messagesOf`. -/
structure Tidy (T : Traffic σ) : Prop where
  home : ∀ id s, T.state.sessions.held? id = some s → s.Home
  foreign : ∀ id s, T.state.sessions.held? id = some s → ∀ i ∈ s.messageIds,
    i ∉ T.state.sessions.ids
  concluded : ∀ id s, T.state.sessions.held? id = some s →
    s.concludedIds = (T.recordedOf id).map (·.id)
  unknown : ∀ id, id ∉ T.state.sessions.ids → T.recordedOf id = []
  named : ∀ c ∈ T.concluded, c.2.session = c.1.session
  messages : ∀ id, (T.log.filterMap Event.handed?).filter (fun r => r.session = id)
    = T.messagesOf id
  abandoned : ∀ m ∈ T.abandoned, (∃ n < T.state.serial, m.id = Uuid.issued n) ∧
    ∀ id s, T.state.sessions.held? id = some s → m.id ∉ s.messageIds

theorem tidy_start (st : FilterState σ) : (start st).Tidy where
  home := by
    rintro id s ⟨⟩
  foreign := by
    rintro id s ⟨⟩
  concluded := by
    rintro id s ⟨⟩
  unknown := fun _ _ => rfl
  named := by
    intro c hc
    cases hc
  messages := fun _ => rfl
  abandoned := by
    intro m hm
    cases hm

section

variable {f : Filter σ} {T : Traffic σ}

theorem Tidy.call (h : T.Tidy) (hT : T.Traced f) (thread : Thread σ) :
    ({ T with threads := T.threads ++ [thread] } : Traffic σ).Tidy where
  home := h.home
  foreign := h.foreign
  concluded := by
    intro id s hs
    rw [recordedOf, gather_call hT]
    exact h.concluded id s hs
  unknown := by
    intro id hid
    rw [recordedOf, gather_call hT]
    exact h.unknown id hid
  named := h.named
  messages := by
    intro id
    rw [messagesOf, gather_call hT]
    exact h.messages id
  abandoned := h.abandoned

/-- Sessions come in, and those that are there take the `SameCourse`: the traffic stays `Tidy`. -/
theorem Tidy.of_course (h : T.Tidy) (hA : T.Apart) {state : FilterState σ}
    (hserial : T.state.serial ≤ state.serial)
    (hold : ∀ id ∈ T.state.sessions.ids, id ∈ state.sessions.ids)
    (hnew : ∀ id ∈ state.sessions.ids, id ∈ T.state.sessions.ids ∨
      id = Uuid.issued T.state.serial)
    (hsession : ∀ id s', state.sessions.held? id = some s' →
      (s'.messages = [] ∧ id ∉ T.state.sessions.ids) ∨
        ∃ s, T.state.sessions.held? id = some s ∧ s.SameCourse s') :
    ({ T with state } : Traffic σ).Tidy where
  home := by
    intro id s' hs' m hm
    rcases hsession id s' hs' with ⟨hnil, -⟩ | ⟨s, hs, hsame⟩
    · rw [hnil] at hm
      cases hm
    · rw [hsame.id]
      exact h.home id s hs m (hsame.messages ▸ hm)
  foreign := by
    intro id s' hs' i hi hmem
    rcases hsession id s' hs' with ⟨hnil, -⟩ | ⟨s, hs, hsame⟩
    · rw [Session.messageIds, hnil] at hi
      cases hi
    · rw [Session.messageIds, hsame.messages] at hi
      -- a new session has an identifier that no message has been given
      rcases hnew i hmem with hmem | rfl
      · exact h.foreign id s hs i hi hmem
      · exact Uuid.ne_issued (hA.issued id s hs _ hi) rfl
  concluded := by
    intro id s' hs'
    rcases hsession id s' hs' with ⟨hnil, hid⟩ | ⟨s, hs, hsame⟩
    · show s'.concludedIds = (T.recordedOf id).map (·.id)
      rw [h.unknown id hid, Session.concludedIds, hnil]
      rfl
    · rw [Session.concludedIds_congr hsame.messages]
      exact h.concluded id s hs
  unknown := fun id hid => h.unknown id fun hmem => hid (hold id hmem)
  named := h.named
  messages := h.messages
  abandoned := by
    intro m hm
    obtain ⟨⟨n, hn, heq⟩, habsent⟩ := h.abandoned m hm
    refine ⟨⟨n, Nat.lt_of_lt_of_le hn hserial, heq⟩, fun id s' hs' => ?_⟩
    rcases hsession id s' hs' with ⟨hnil, -⟩ | ⟨s, hs, hsame⟩
    · simp [Session.messageIds, hnil]
    · rw [Session.messageIds, hsame.messages]
      exact habsent id s hs

theorem Event.handed?_eq_some {e : Event σ} {record : MessageRecord} :
    e.handed? = some record ↔ ∃ r, e.task = .told r record := by
  obtain ⟨i, task, before, result, after⟩ := e
  cases task <;> simp [handed?, Task.handed?]

theorem Event.abandoned?_eq_some {e : Event σ} {m : Message} (h : e.abandoned? = some m) :
    ∃ id s, e.task = .called id .abort ∧ e.before.sessions.held? id = some s ∧
      s.current? = some m := by
  unfold abandoned? at h
  split at h
  · next id hid =>
    obtain ⟨s, hs, hm⟩ := Option.bind_eq_some_iff.1 h
    exact ⟨id, s, hid, hs, hm⟩
  · cases h

/-- What is handed over by a task `told` has been recorded by the same callback, on its session. -/
theorem Tidy.session_of_told (h : T.Tidy) (hT : T.Traced f) {i : Nat} {thread : Thread σ}
    {r : Ruling} {record : MessageRecord} (hi : T.threads[i]? = some thread)
    (ht : thread.progress.task? = some (.told r record)) : record.session = r.session := by
  have howes : account (T.eventsOf i) = { recorded := [(r, record)], told := [(r, record)] } :=
    (hT.owes i thread hi).of_task ht
  have hmem : (r, record) ∈ (account (T.eventsOf i)).recorded := by
    rw [howes]
    exact List.mem_singleton.2 rfl
  obtain ⟨e, he, hc⟩ := List.mem_filterMap.1 hmem
  exact h.named (r, record) (List.mem_filterMap.2 ⟨e, List.mem_of_mem_filter he, hc⟩)

theorem filterMap_concat {α β : Type} (l : List α) (a : α) (g : α → Option β) :
    (l ++ [a]).filterMap g = l.filterMap g ++ (g a).toList :=
  List.filterMap_append

theorem absent_of_outcome {i : Uuid} (hissued : ∃ n < T.state.serial, i = Uuid.issued n)
    (habsent : ∀ id s, T.state.sessions.held? id = some s → i ∉ s.messageIds) {id : Uuid}
    {s s' : Session} {task : Task σ} {p : Progress σ} {state : FilterState σ}
    (hs : T.state.sessions.held? id = some s) (ho : task.Outcome f T.state id s p s')
    (hsessions : T.state.sessions.Replaces state.sessions s') :
    ∀ id' x, state.sessions.held? id' = some x → i ∉ x.messageIds := by
  intro id' x hx
  rw [held?_of_outcome hs ho hsessions] at hx
  split at hx
  · obtain rfl := Option.some.inj hx
    intro hmem
    rcases ho.mem_messageIds hmem with hmem | ⟨-, hnew⟩
    · exact habsent id s hs hmem
    · exact Uuid.ne_issued hissued hnew
  · exact habsent id' x hx

/-- A message that is abandoned leaves its session, and it is in no other: its identifier is among no
`messageIds`. -/
theorem absent_of_abort (f : Filter σ) (hA : T.Apart) {id : Uuid} {s : Session} {m : Message}
    (hs : T.state.sessions.held? id = some s) (hm : s.current? = some m) :
    ∀ id' x, (f.step T.state (.called id .abort)).2.sessions.held? id' = some x →
      m.id ∉ x.messageIds := by
  have hmem : m.id ∈ s.messageIds := List.mem_map_of_mem (Session.mem_of_current? hm)
  intro id' x hx
  rw [Filter.held?_abort f hs] at hx
  split at hx
  · rw [← Option.some.inj hx]
    exact Session.not_mem_abort hm (hA.nodup id s hs)
  · next hne => exact fun hmem' => hne (hA.owner id s id' x hs hx m.id hmem hmem')

/-- A verdict that a task gives is the last one in `recordedOf` its session. -/
theorem Tidy.concluded_went (h : T.Tidy) (hlatest : T.Latest) {i : Nat} {thread : Thread σ}
    {task : Task σ} {p : Progress σ} {state : FilterState σ} {id : Uuid} {s s' : Session}
    (hi : T.threads[i]? = some thread) (ht : thread.progress.task? = some task)
    (hid : thread.session = some id) (hs : T.state.sessions.held? id = some s)
    (ho : task.Outcome f T.state id s p s')
    (hsessions : T.state.sessions.Replaces state.sessions s') {id' : Uuid} {x : Session}
    (hx : state.sessions.held? id' = some x) :
    x.concludedIds = ((T.extend ⟨i, task, T.state, p, state⟩
      (T.threads.set i { thread with progress := p })).recordedOf id').map (·.id) := by
  rw [held?_of_outcome hs ho hsessions] at hx
  rw [recordedOf, gather_extend hlatest hi (by simp [ht]) _ rfl p id', Event.recorded?]
  split at hx
  · next hidid =>
    obtain rfl := Option.some.inj hx
    have hconcluded : s'.concludedIds = s.concludedIds
        ++ ((⟨i, task, T.state, p, state⟩ : Event σ).concluded?.map (·.2.id)).toList :=
      concludedIds_of_outcome i ho
    rw [if_pos (hid.trans (congrArg some hidid)), hconcluded, h.concluded id s hs, List.map_append,
      ← hidid]
    congr 1
    cases (⟨i, task, T.state, p, state⟩ : Event σ).concluded? <;> rfl
  · next hne =>
    rw [if_neg fun heq => hne (Option.some.inj (hid.symm.trans heq)), List.append_nil]
    exact h.concluded id' x hx

/-- A record that a task hands over is of the session that the callback is on, and comes into
`messagesOf` that one. -/
theorem Tidy.messages_went (h : T.Tidy) (htraced : T.Traced f) (hlatest : T.Latest) {i : Nat}
    {thread : Thread σ} {task : Task σ} {p : Progress σ} {state : FilterState σ} {id : Uuid}
    (hi : T.threads[i]? = some thread) (ht : thread.progress.task? = some task)
    (hid : thread.session = some id) (hown : task.session? = some id) (id' : Uuid) :
    ((T.log ++ [(⟨i, task, T.state, p, state⟩ : Event σ)]).filterMap Event.handed?).filter
        (fun r => r.session = id')
      = (T.extend ⟨i, task, T.state, p, state⟩
          (T.threads.set i { thread with progress := p })).messagesOf id' := by
  rw [messagesOf, gather_extend hlatest hi (by simp [ht]) _ rfl p id', filterMap_concat,
    List.filter_append, h.messages, messagesOf]
  congr 1
  cases hhanded : (⟨i, task, T.state, p, state⟩ : Event σ).handed? with
  | none => simp
  | some record =>
    obtain ⟨r, htold⟩ := Event.handed?_eq_some.1 hhanded
    obtain rfl : task = .told r record := htold
    have hrecord : record.session = id :=
      (h.session_of_told htraced hi ht).trans (Option.some.inj hown)
    by_cases heq : id = id' <;> simp [hrecord, hid, heq]

/-- A message that has been abandoned, or is now, is in no session: its identifier is among no
`messageIds`. -/
theorem Tidy.abandoned_went (h : T.Tidy) (hA : T.Apart) {i : Nat} {task : Task σ}
    {p : Progress σ} {state : FilterState σ} {id : Uuid} {s s' : Session}
    (hown : task.session? = some id) (hstep : f.step T.state task = (p, state))
    (hs : T.state.sessions.held? id = some s) (ho : task.Outcome f T.state id s p s')
    (hsessions : T.state.sessions.Replaces state.sessions s') {m : Message}
    (hm : m ∈ (T.log ++ [(⟨i, task, T.state, p, state⟩ : Event σ)]).filterMap Event.abandoned?) :
    (∃ n < state.serial, m.id = Uuid.issued n) ∧
      ∀ id' x, state.sessions.held? id' = some x → m.id ∉ x.messageIds := by
  have hserial : state.serial = T.state.serial + task.identifiers := serial_of_step hstep
  have hmore : ∀ i', (∃ n < T.state.serial, i' = Uuid.issued n) →
      ∃ n < state.serial, i' = Uuid.issued n := by
    rintro i' ⟨n, hn, rfl⟩
    exact ⟨n, by omega, rfl⟩
  rw [filterMap_concat, List.mem_append, Option.mem_toList] at hm
  rcases hm with hm | hm
  · obtain ⟨hissued, habsent⟩ := h.abandoned m hm
    exact ⟨hmore _ hissued, absent_of_outcome hissued habsent hs ho hsessions⟩
  · obtain ⟨id₀, s₀, htask, hs₀, hcurrent⟩ := Event.abandoned?_eq_some hm
    obtain rfl : task = .called id₀ .abort := htask
    obtain rfl : id₀ = id := Option.some.inj hown
    obtain rfl : s₀ = s := Option.some.inj (hs₀.symm.trans hs)
    have hmem := List.mem_map_of_mem (f := (·.id)) (Session.mem_of_current? hcurrent)
    have habsent := absent_of_abort f hA hs hcurrent
    rw [hstep] at habsent
    exact ⟨hmore _ (hA.issued id₀ s₀ hs m.id hmem), habsent⟩

theorem Tidy.went (h : T.Tidy) (hT : T.Sound) (hA : T.Apart) (htraced : T.Traced f)
    (hlatest : T.Latest) {i : Nat} {thread : Thread σ} {task : Task σ} {p : Progress σ}
    {state : FilterState σ} {id : Uuid} {s s' : Session} (hi : T.threads[i]? = some thread)
    (ht : thread.progress.task? = some task) (hid : thread.session = some id)
    (hstep : f.step T.state task = (p, state)) (hs : T.state.sessions.held? id = some s)
    (ho : task.Outcome f T.state id s p s')
    (hsessions : T.state.sessions.Replaces state.sessions s') :
    (T.extend ⟨i, task, T.state, p, state⟩
      (T.threads.set i { thread with progress := p })).Tidy := by
  have hheld := held?_of_outcome hs ho hsessions
  have hids : state.sessions.ids = T.state.sessions.ids := hsessions.ids
  have hown : task.session? = some id := (hT.session i thread task hi ht).trans hid
  constructor
  case home =>
    intro id' x hx
    rw [hheld] at hx
    split at hx
    · exact Option.some.inj hx ▸ ho.home (h.home id s hs)
    · exact h.home id' x hx
  case foreign =>
    intro id' x hx j hj
    show j ∉ state.sessions.ids
    rw [hids]
    rw [hheld] at hx
    split at hx
    · obtain rfl := Option.some.inj hx
      -- a message that is new has an identifier that no session has
      rcases ho.mem_messageIds hj with hj | ⟨-, rfl⟩
      · exact h.foreign id s hs j hj
      · exact hT.not_issued
    · exact h.foreign id' x hx j hj
  case concluded => exact fun id' x hx => h.concluded_went hlatest hi ht hid hs ho hsessions hx
  case unknown =>
    intro id' hid'
    have hmem := SessionTable.mem_ids_of_held? hs
    -- the session that the callback is on is there
    rw [recordedOf, gather_extend hlatest hi (by simp [ht]) _ rfl p id', if_neg, List.append_nil]
    · exact h.unknown id' (hids ▸ hid')
    · intro heq
      obtain rfl : id = id' := Option.some.inj (hid.symm.trans heq)
      exact hid' (hids ▸ hmem)
  case named =>
    intro c hc
    rw [concluded_extend] at hc
    rcases List.mem_append.1 hc with hc | hc
    · exact h.named c hc
    · obtain ⟨r, record⟩ := c
      obtain ⟨-, hr, m, headers, hm, -, -, rfl, -⟩ :=
        ho.concluded_eq (Event.concluded?_eq_some.1 (Option.mem_toList.1 hc))
      have hsession := h.home id s hs m (Session.mem_of_current? hm)
      exact (hsession.trans (SessionTable.id_of_held? hs)).trans hr.symm
  case messages => exact h.messages_went htraced hlatest hi ht hid hown
  case abandoned => exact fun m hm => h.abandoned_went hA hown hstep hs ho hsessions hm

theorem Tidy.answered (h : T.Tidy) (hlatest : T.Latest) {i : Nat}
    {thread : Thread σ} {stage : Stage} {reason : Interruption} {outcome : Except Panic Answer}
    {state : FilterState σ} (hi : T.threads[i]? = some thread)
    (ht : thread.progress.task? = some (.interrupted stage thread.session reason))
    (hserial : state.serial = T.state.serial) (hsessions : state.sessions = T.state.sessions) :
    (T.extend ⟨i, .interrupted stage thread.session reason, T.state, .done outcome, state⟩
      (T.threads.set i { thread with progress := .done outcome })).Tidy := by
  set e : Event σ := ⟨i, .interrupted stage thread.session reason, T.state, .done outcome, state⟩
    with he
  -- the event that is added has nothing to do with messages, so nothing that is gathered changes
  have hgather : ∀ (id : Uuid) (part : Event σ → Option MessageRecord), part e = none →
      (T.extend e (T.threads.set i { thread with progress := .done outcome })).gather id part
        = T.gather id part := by
    intro id part hpart
    rw [gather_extend hlatest hi (by simp [ht]) e rfl, hpart, Option.toList_none, ite_self,
      List.append_nil]
  constructor
  case home => exact fun id s hs => h.home id s (hsessions ▸ hs)
  case foreign =>
    intro id s hs j hj
    show j ∉ state.sessions.ids
    rw [hsessions]
    exact h.foreign id s (hsessions ▸ hs) j hj
  case concluded =>
    intro id s hs
    rw [recordedOf, hgather id _ rfl]
    exact h.concluded id s (hsessions ▸ hs)
  case unknown =>
    intro id hid
    rw [recordedOf, hgather id _ rfl]
    exact h.unknown id (hsessions ▸ hid)
  case named =>
    intro c hc
    rw [concluded_extend] at hc
    exact h.named c (by simpa [Event.concluded?, he] using hc)
  case messages =>
    intro id
    show ((T.log ++ [e]).filterMap Event.handed?).filter _ = _
    rw [messagesOf, hgather id _ rfl, filterMap_concat, ← messagesOf, ← h.messages]
    exact congrArg _ (List.append_nil _)
  case abandoned =>
    intro m hm
    have hmem : m ∈ (T.log ++ [e]).filterMap Event.abandoned? := hm
    rw [filterMap_concat, show e.abandoned? = none from rfl, Option.toList_none,
      List.append_nil] at hmem
    obtain ⟨⟨n, hn, heq⟩, habsent⟩ := h.abandoned m hmem
    exact ⟨⟨n, hserial ▸ hn, heq⟩, fun id s hs => habsent id s (hsessions ▸ hs)⟩

theorem tidy_of_moved (h : T.Tidy) (hT : T.Sound) (hA : T.Apart) (htraced : T.Traced f)
    (hlatest : T.Latest) {T' : Traffic σ} {m : Move σ} (hm : Moved f T m T') : T'.Tidy := by
  cases hm with
  | @connected _ _ _ state s hid hposition hmessages hserial hsessions =>
    have hids : state.sessions.ids = T.state.sessions.ids ++ [s.id] := by
      rw [hsessions, SessionTable.ids_insert]
    have hfresh : s.id ∉ T.state.sessions.ids := hid ▸ hT.not_issued
    refine h.of_course hA (by omega) (fun id hmem => hids ▸ List.mem_append_left _ hmem)
      (fun id hmem => ?_) fun id x hx => ?_
    · rcases List.mem_append.1 (hids ▸ hmem) with hmem | hmem
      · exact .inl hmem
      · exact .inr (List.mem_singleton.1 hmem ▸ hid)
    · rw [hsessions, SessionTable.held?_insert hfresh] at hx
      split at hx
      · next heq =>
        obtain rfl := Option.some.inj hx
        exact .inl ⟨hmessages, heq ▸ hfresh⟩
      · exact .inr ⟨x, hx, .refl x⟩
  | taken _ | replied _ | unknown => exact h.call htraced _
  | went hi ht hid hstep hs ho hsessions =>
    exact h.went hT hA htraced hlatest hi ht hid hstep hs ho hsessions
  | answered hi ht hstep hsessions =>
    exact h.answered hlatest hi ht (serial_of_step hstep) hsessions
  | @aside _ state g hg hserial hsessions =>
    have hids : state.sessions.ids = T.state.sessions.ids :=
      SessionTable.ids_of_map (fun s => (hg s).id) hsessions
    refine h.of_course hA (Nat.le_of_eq hserial.symm) (fun id hmem => hids ▸ hmem)
      (fun id hmem => .inl (hids ▸ hmem)) fun id x hx => .inr (held?_of_aside hg hsessions hx)

end

end Traffic

end MailFilter
