/-
Clients on the allow list, whatever else goes on.

A callback within a session that is on the allow list is answered with the reply to go on, in whatever
order the callbacks make their moves and whatever the checkers do, as long as its session can be found
when it does something and panics are not let out. The one exception is `RCPT TO` without an argument:
it is refused at once, before anything has asked who the client is.

* `favoured_move`: every move keeps what a callback has done in favour of the client;
* `allowListed_proceeds_iff`: which callbacks are answered with the reply to go on;
* `allowListed_refused`: a client on the list that is refused.
-/
import MailFilter.Proofs.Filter.AllowList
import MailFilter.Proofs.Traffic.Race
import MailFilter.Proofs.Traffic.Run

namespace MailFilter.Traffic

variable {σ : Type} {f : Filter σ} {T : Traffic σ} {id : Uuid} {c : Callback} {i : Nat}

/-! ### The table of sessions -/

/-- A callback that is not over carries out its next task by `go`. -/
theorem go_cases (f : Filter σ) (T : Traffic σ) (j : Nat) :
    T.go f j = T ∨ ∃ thread task, T.threads[j]? = some thread ∧ thread.progress.task? = some task ∧
      T.go f j = T.extend ⟨j, task, T.state, (f.step T.state task).1, (f.step T.state task).2⟩
        (T.threads.set j { thread with progress := (f.step T.state task).1 }) := by
  unfold go
  cases hj : T.threads[j]? with
  | none => exact .inl rfl
  | some thread =>
    dsimp only
    cases ht : thread.progress.task? with
    | none => exact .inl rfl
    | some task => exact .inr ⟨thread, task, rfl, ht, rfl⟩

/-- A client that is on the allow list stays on it, and one that is not never comes to be: the `clients`
of the sessions stay. -/
theorem clients_move (f : Filter σ) (hT : T.Sound) {listed : Bool}
    (h : (id, listed) ∈ T.state.sessions.clients) (m : Move σ) :
    (id, listed) ∈ (T.move f m).state.sessions.clients := by
  cases m with
  | connect ip port reverseDns =>
    show _ ∈ (T.state.sessions.insert _).clients
    rw [SessionTable.clients_insert]
    exact List.mem_append_left _ h
  | call session c => exact h
  | go j =>
    show _ ∈ (T.go f j).state.sessions.clients
    rcases go_cases f T j with hstay | ⟨thread, task, -, -, hgo⟩
    · rwa [hstay]
    · rw [hgo]
      show _ ∈ (f.step T.state task).2.sessions.clients
      rwa [Filter.clients_step f hT.distinct task]
  | prune now =>
    show _ ∈ (T.state.prune f now).2.sessions.clients
    -- sessions that are swept away can still be held, and clients are listed for all that can
    have hall : (T.state.prune f now).2.sessions.all = T.state.sessions.all := by
      rw [(Filter.prune_keeps f now T.state).1]
      exact SessionTable.all_removeWhere ..
    rwa [SessionTable.clients_of_all_eq hall]
  | overrideConfig session config =>
    show _ ∈ (T.state.overrideConfig session config).sessions.clients
    unfold FilterState.overrideConfig
    cases hs : T.state.sessions.find? session with
    | none => exact h
    | some s =>
      have hheld := SessionTable.held?_of_find? hT.distinct hs
      have hsame : (s.overrideConfig config).client = s.client := rfl
      show _ ∈ (T.state.sessions.update (s.overrideConfig config)).clients
      rwa [SessionTable.clients_update hT.distinct hheld hsame]
  | elsewhere after => exact h

/-! ### A callback -/

/-- The session `id` can be found when the task is carried out, and panics are not let out. -/
def Event.Calm (id : Uuid) (e : Event σ) : Prop :=
  (e.before.sessions.find? id).isSome = true ∧ e.before.config.milter.propagatePanics = false

instance (id : Uuid) (e : Event σ) : Decidable (e.Calm id) :=
  inferInstanceAs (Decidable (_ ∧ _))

/-- What the callback `c` at the place `i` has done so far is in favour of a client on the allow list,
whose session is `id`. -/
structure Favoured (id : Uuid) (c : Callback) (i : Nat) (T : Traffic σ) : Prop where
  listed : (id, true) ∈ T.state.sessions.clients
  thread : ∃ p, T.threads[i]? = some ⟨some id, c, p⟩ ∧
    ((∀ e ∈ T.eventsOf i, e.Calm id) → p.Favours)

/-- A move that changes neither the callback nor what it has done keeps it `Favoured`. -/
theorem Favoured.of_eq {T' : Traffic σ} (h : T.Favoured id c i)
    (hlisted : (id, true) ∈ T'.state.sessions.clients)
    (hthread : ∀ thread, T.threads[i]? = some thread → T'.threads[i]? = some thread)
    (hlog : T'.eventsOf i = T.eventsOf i) : T'.Favoured id c i := by
  obtain ⟨p, hp, hfavours⟩ := h.thread
  refine ⟨hlisted, p, hthread _ hp, ?_⟩
  rw [hlog]
  exact hfavours

/-- A callback that is `Favoured` goes on in favour of the client: what comes of its task
`Favours` it. -/
theorem favoured_go (f : Filter σ) (hT : T.Sound) (h : T.Favoured id c i) {task : Task σ}
    {p : Progress σ} (hi : T.threads[i]? = some ⟨some id, c, p⟩) (ht : p.task? = some task)
    (hcalm : ∀ e ∈ T.eventsOf i, e.Calm id)
    (hnow : (⟨i, task, T.state, (f.step T.state task).1, (f.step T.state task).2⟩ : Event σ).Calm id) :
    (f.step T.state task).1.Favours := by
  obtain ⟨s, hs⟩ := Option.isSome_iff_exists.1 hnow.1
  obtain ⟨p', hp, hfavours⟩ := h.thread
  rw [hi, Option.some.injEq, Thread.mk.injEq] at hp
  have htask : task.Favours := by
    have hbefore := hfavours hcalm
    rw [← hp.2.2] at hbefore
    cases p with
    | done outcome => cases ht
    | next t | waiting ms t =>
      cases ht
      exact hbefore
  exact Filter.favours_step f hT.distinct (hT.session i _ task hi ht) hs
    (SessionTable.isAllowListed_of_find? hT.distinct h.listed hs) hnow.2 htask

/-- Every move keeps what a callback has done in favour of the client: it stays `Favoured`. -/
theorem favoured_move (f : Filter σ) (hT : T.Sound) (h : T.Favoured id c i) (m : Move σ) :
    (T.move f m).Favoured id c i := by
  -- only the callback's own moves add to what it has done
  have hlisted := clients_move f hT h.listed m
  cases m with
  | call session c' =>
    exact h.of_eq hlisted (fun thread hi => getElem?_concat_iff.2 (.inl hi)) rfl
  | connect _ _ _ | prune _ | overrideConfig _ _ | elsewhere _ =>
    exact h.of_eq hlisted (fun thread hi => hi) rfl
  | go j =>
    have hmove : T.move f (.go j) = T.go f j := rfl
    rw [hmove] at hlisted ⊢
    rcases go_cases f T j with hstay | ⟨thread, task, hj, ht, hgo⟩
    · rwa [hstay]
    · rw [hgo] at hlisted ⊢
      have hlog := eventsOf_extend T
        ⟨j, task, T.state, (f.step T.state task).1, (f.step T.state task).2⟩
        (T.threads.set j { thread with progress := (f.step T.state task).1 }) i
      by_cases hji : j = i
      · -- the callback itself goes on
        subst hji
        obtain ⟨p, hp, -⟩ := h.thread
        obtain rfl : thread = ⟨some id, c, p⟩ := Option.some.inj (hj.symm.trans hp)
        refine ⟨hlisted, (f.step T.state task).1, (getElem?_set_iff hj).2 (.inl ⟨rfl, rfl⟩), ?_⟩
        rw [hlog, if_pos rfl]
        intro hcalm
        exact favoured_go f hT h hj ht (fun e he => hcalm e (List.mem_append_left _ he))
          (hcalm _ (List.mem_append_right _ (List.mem_singleton.2 rfl)))
      · refine h.of_eq hlisted (fun t hi => (getElem?_set_iff hj).2 (.inr ⟨hji, hi⟩)) ?_
        rw [hlog, if_neg hji]

theorem favoured_run (f : Filter σ) (hT : T.Sound) (h : T.Favoured id c i)
    (moves : List (Move σ)) : (T.run f moves).Favoured id c i := by
  induction moves generalizing T with
  | nil => exact h
  | cons m rest ih =>
    exact ih (sound_of_moved hT (moved_move f hT m)) (favoured_move f hT h m)

/-! ### The reply -/

/-- What a callback has been answered stays, whatever moves `run`. -/
theorem done_run (f : Filter σ) {thread : Thread σ} {outcome : Except Panic Answer}
    (hi : T.threads[i]? = some thread) (hdone : thread.progress = .done outcome)
    (moves : List (Move σ)) : (T.run f moves).threads[i]? = some thread := by
  induction moves generalizing T with
  | nil => exact hi
  | cons m rest ih =>
    refine ih ?_
    cases m with
    | call session c => exact getElem?_concat_iff.2 (.inl hi)
    | connect _ _ _ | prune _ | overrideConfig _ _ | elsewhere _ => exact hi
    | go j =>
      show (T.go f j).threads[i]? = some thread
      rcases go_cases f T j with hstay | ⟨other, task, hj, ht, hgo⟩
      · rwa [hstay]
      · rw [hgo]
        refine (getElem?_set_iff hj).2 (.inr ⟨?_, hi⟩)
        rintro rfl
        rw [hi] at hj
        rw [← Option.some.inj hj, hdone] at ht
        cases ht

/-- **A client on the allow list is never refused**, but for a recipient without an address: every other
callback whose events are `Calm` and that comes to its end is answered with the reply to go on, and every
callback that is left to itself comes to its end. -/
theorem allowListed_proceeds_iff (f : Filter σ) (st : FilterState σ) (moves moves' : List (Move σ))
    {T T' : Traffic σ} {id : Uuid} {s : Session} (c : Callback) (hT : T = (start st).run f moves)
    (hT' : T' = T.run f (.call (some id) c :: moves'))
    (hs : T.state.sessions.find? id = some s) (hallow : s.isAllowListed = true)
    (hcalm : ∀ e ∈ T'.eventsOf T.threads.length, e.Calm id) :
    ∃ p, T'.threads[T.threads.length]? = some ⟨some id, c, p⟩ ∧
      (∀ outcome, p = .done outcome →
        ∃ answer, outcome = .ok answer ∧ (answer.reply = .proceed ↔ c ≠ .envRcpt [])) ∧
      (∀ task, p.task? = some task → ∃ n outcome,
        (T'.run f (List.replicate n (.go T.threads.length))).threads[T.threads.length]?
          = some ⟨some id, c, .done outcome⟩) := by
  have hsound : T.Sound := hT ▸ sound_run f (sound_start st) moves
  have htaken : (T.move f (.call (some id) c)).threads[T.threads.length]?
      = some ⟨some id, c, Filter.call (some id) c T.state⟩ := List.getElem?_concat_length
  have hrun : T' = (T.move f (.call (some id) c)).run f moves' := hT'
  by_cases hc : c = .envRcpt []
  · -- it is refused when it is taken
    subst hc
    rw [Filter.call_withoutRecipient hs] at htaken
    have hstays := done_run f htaken rfl moves'
    rw [← hrun] at hstays
    refine ⟨_, hstays, ?_, ?_⟩
    · rintro outcome ⟨⟩
      exact ⟨_, rfl, by simp⟩
    · rintro task ⟨⟩
  · -- from when it is taken the callback is in favour of the client, which every move keeps
    have htaken' : (T.move f (.call (some id) c)).Favoured id c T.threads.length :=
      ⟨SessionTable.mem_clients_of_find? hs hallow, _, htaken,
        fun _ => Filter.favours_call hs hc⟩
    have hfavoured := favoured_run f
      (sound_of_moved hsound (moved_move f hsound _)) htaken' moves'
    rw [← hrun] at hfavoured
    obtain ⟨p, hp, hfavours⟩ := hfavoured.thread
    refine ⟨p, hp, ?_, fun task ht => ?_⟩
    · rintro outcome rfl
      obtain ⟨answer, rfl, hreply⟩ := hfavours hcalm
      exact ⟨answer, rfl, by simp [hreply, hc]⟩
    · have hreaches : Reaches T' T.threads.length ⟨some id, c, p⟩ p T'.state := ⟨hp, rfl⟩
      exact ends_of_task f hreaches ht

/-- A filter that has the clients of one network on its allow list. -/
def lenient : FilterState Unit :=
  .blank { milter := { allowList := [⟨.v4 0x0A000000, 8⟩] } }

/-- A client of the network on that list starts a message. -/
def listedSender : List (Move Unit) :=
  [.connect (some (.v4 0x0A010203)) none none,
    .call (some (Uuid.issued 0)) (.envFrom ["<a@example.org>"] {}), .go 0]

/-- A greeting in the middle of a message is a failure, and yet the client is told to go on: it is on the
list of `lenient`. -/
theorem allowListed_proceeds_greeting :
    let T := (start lenient).run .bare listedSender
    let T' := T.run .bare
      [.call (some (Uuid.issued 0)) (.helo "client.example.org" {}), .go 1, .go 1]
    ∃ s p, T.state.sessions.find? (Uuid.issued 0) = some s ∧ s.isAllowListed = true ∧
      (∀ e ∈ T'.eventsOf 1, e.Calm (Uuid.issued 0)) ∧
      T'.threads[1]? = some ⟨some (Uuid.issued 0), .helo "client.example.org" {}, p⟩ ∧
      ∀ outcome, p = .done outcome → ∃ answer, outcome = .ok answer ∧ answer.reply = .proceed := by
  intro T T'
  have hfound : (T.state.sessions.find? (Uuid.issued 0)).map Session.isAllowListed = some true := by
    decide +kernel
  obtain ⟨s, hs, hallow⟩ := Option.map_eq_some_iff.1 hfound
  have hcalm : ∀ e ∈ T'.eventsOf 1, e.Calm (Uuid.issued 0) := by decide +kernel
  obtain ⟨p, hp, hreply, -⟩ := allowListed_proceeds_iff .bare lenient listedSender _ _ rfl rfl hs
    hallow hcalm
  refine ⟨s, p, hs, hallow, hcalm, hp, fun outcome hdone => ?_⟩
  obtain ⟨answer, hok, hiff⟩ := hreply outcome hdone
  exact ⟨answer, hok, hiff.2 (by simp)⟩

/-- A client on the list is refused a recipient without an address. -/
theorem allowListed_refused :
    let T := (start lenient).run .bare listedSender
    let T' := T.run .bare [.call (some (Uuid.issued 0)) (.envRcpt [])]
    ∃ s, T.state.sessions.find? (Uuid.issued 0) = some s ∧ s.isAllowListed = true ∧
      (T'.eventsOf 1).length = 0 ∧ T'.state.config.milter.propagatePanics = false ∧
      T'.threads[1]? = some ⟨some (Uuid.issued 0), .envRcpt [],
        .replied (.reject Reply.badRecipientText)⟩ := by
  intro T T'
  have hfound : (T.state.sessions.find? (Uuid.issued 0)).map Session.isAllowListed = some true := by
    decide +kernel
  obtain ⟨s, hs, hallow⟩ := Option.map_eq_some_iff.1 hfound
  have hlength : T.threads.length = 1 := by decide +kernel
  have htaken : T'.threads[T.threads.length]? = some ⟨some (Uuid.issued 0), .envRcpt [],
      Filter.call (some (Uuid.issued 0)) (.envRcpt []) T.state⟩ := List.getElem?_concat_length
  rw [hlength, Filter.call_withoutRecipient hs] at htaken
  exact ⟨s, hs, hallow, by decide +kernel, by decide +kernel, htaken⟩

end MailFilter.Traffic
