/-
Callbacks that are carried out to their end, as traffic.

`Filter.run` takes a callback and goes on with it until it is over; while the callback waits, and before
the checks of a message are started, what is left to do in the background is worked off. In traffic the
same happens move by move, with room for anything else in between.

* `ends_of_task`: a callback that is left to itself comes to its end;
* `run_call`: whatever `Filter.run` does is traffic.
-/
import MailFilter.Filter.Run
import MailFilter.Proofs.Traffic.Basic

namespace MailFilter

variable {σ : Type}

/-- The `Progress` of a callback that has stopped for the time being. -/
def Filter.Pause.progress : Filter.Pause σ → Progress σ
  | .done outcome => .done outcome
  | .waiting ms task => .waiting ms task

namespace Traffic

variable {f : Filter σ} {T : Traffic σ} {i : Nat} {thread : Thread σ} {p : Progress σ}
  {st : FilterState σ} {task : Task σ}

/-- The callback at the place `i` has come as far as `p`, and the filter is in the state `st`. -/
structure Reaches (T : Traffic σ) (i : Nat) (thread : Thread σ) (p : Progress σ)
    (st : FilterState σ) : Prop where
  thread : T.threads[i]? = some { thread with progress := p }
  state : T.state = st

/-- A callback goes on with its next task: where it `Reaches` follows from `step`. -/
theorem Reaches.go (h : T.Reaches i thread p st) (ht : p.task? = some task) :
    (T.move f (.go i)).Reaches i thread (f.step st task).1 (f.step st task).2 := by
  obtain ⟨hi, rfl⟩ := h
  obtain ⟨hlt, -⟩ := List.getElem?_eq_some_iff.1 hi
  have hgo : T.move f (.go i) = T.extend ⟨i, task, T.state, (f.step T.state task).1,
      (f.step T.state task).2⟩
      (T.threads.set i { thread with progress := (f.step T.state task).1 }) := by
    show T.go f i = _
    simp only [Traffic.go, hi, ht]
  rw [hgo]
  exact ⟨List.getElem?_set_self hlt, rfl⟩

/-- What is left to do in the background is worked off by `settle`. -/
theorem Reaches.settle (h : T.Reaches i thread p st) :
    (T.move f (.elsewhere (st.settle f))).Reaches i thread p (st.settle f) := by
  obtain ⟨hi, rfl⟩ := h
  exact ⟨hi, rfl⟩

theorem Reaches.meanwhile (h : T.Reaches i thread p st) (task : Task σ) :
    (T.move f (.elsewhere (f.meanwhile st task))).Reaches i thread p (f.meanwhile st task) := by
  unfold Filter.meanwhile
  split
  · split
    · obtain ⟨hi, rfl⟩ := h
      exact ⟨hi, rfl⟩
    · exact h.settle
  · obtain ⟨hi, rfl⟩ := h
    exact ⟨hi, rfl⟩

theorem run_append (f : Filter σ) (T : Traffic σ) (moves moves' : List (Move σ)) :
    T.run f (moves ++ moves') = (T.run f moves).run f moves' :=
  List.foldl_append

/-! ### To the end -/

/-- A callback that is left to itself comes to its end after some moves `go`, wherever it stands. -/
theorem ends_of_task (f : Filter σ) {T : Traffic σ} {i : Nat} {thread : Thread σ} {p : Progress σ}
    {st : FilterState σ} {task : Task σ} (h : T.Reaches i thread p st)
    (ht : p.task? = some task) :
    ∃ n outcome, (T.run f (List.replicate n (.go i))).threads[i]?
      = some { thread with progress := .done outcome } := by
  have hgo := h.go (f := f) ht
  have hprecedes := Filter.precedes_step f st task
  -- one move, and then those to the end of what follows it
  cases hp : (f.step st task).1 with
  | done outcome =>
    rw [hp] at hgo
    exact ⟨1, outcome, hgo.thread⟩
  | next t =>
    rw [hp] at hgo hprecedes
    have hless : t.rank < task.rank ∧ t.remaining f ≤ task.remaining f := hprecedes
    obtain ⟨n, outcome, hn⟩ := ends_of_task f hgo rfl
    exact ⟨n + 1, outcome, hn⟩
  | waiting ms t =>
    rw [hp] at hgo hprecedes
    have hless : t.remaining f < task.remaining f := hprecedes
    obtain ⟨n, outcome, hn⟩ := ends_of_task f hgo rfl
    exact ⟨n + 1, outcome, hn⟩
termination_by (task.remaining f, task.rank)
decreasing_by
  · rw [Prod.lex_def]
    omega
  · exact .left _ _ hless

/-! ### Runs of the filter -/

/-- A move of the callback at the place `i`, or in the background. -/
def Move.IsOf (i : Nat) (m : Move σ) : Prop :=
  m = .go i ∨ ∃ after, m = .elsewhere after

theorem Move.isOf_elsewhere (i : Nat) (after : FilterState σ) :
    ∀ m ∈ [Move.elsewhere after], Move.IsOf i m :=
  fun _ hm => .inr ⟨after, List.mem_singleton.1 hm⟩

/-- A callback goes on with its next task, after what goes on `meanwhile`. -/
theorem Reaches.step (h : T.Reaches i thread p st) (ht : p.task? = some task) :
    ∃ moves, (∀ m ∈ moves, Move.IsOf i m) ∧
      (T.run f moves).Reaches i thread (f.step (f.meanwhile st task) task).1
        (f.step (f.meanwhile st task) task).2 := by
  refine ⟨[.elsewhere (f.meanwhile st task), .go i], fun m hm => ?_, (h.meanwhile task).go ht⟩
  rcases List.mem_cons.1 hm with rfl | hm
  · exact .inr ⟨_, rfl⟩
  · exact .inl (List.mem_singleton.1 hm)

/-- First some moves `IsOf` a callback, and then some more. -/
theorem Reaches.followedBy {moves : List (Move σ)} (hof : ∀ m ∈ moves, Move.IsOf i m)
    (h : ∃ moves', (∀ m ∈ moves', Move.IsOf i m) ∧
      ((T.run f moves).run f moves').Reaches i thread p st) :
    ∃ moves, (∀ m ∈ moves, Move.IsOf i m) ∧ (T.run f moves).Reaches i thread p st := by
  obtain ⟨moves', hof', hreaches⟩ := h
  refine ⟨moves ++ moves', fun m hm => (List.mem_append.1 hm).elim (hof m) (hof' m), ?_⟩
  rw [run_append]
  exact hreaches

/-- A callback goes on until it is over or has to wait, as `Filter.goOn` has it. -/
theorem Reaches.goOn (h : T.Reaches i thread p st) :
    ∃ moves, (∀ m ∈ moves, Move.IsOf i m) ∧
      (T.run f moves).Reaches i thread (f.goOn p st).1.progress (f.goOn p st).2 := by
  fun_induction Filter.goOn f p st generalizing T with
  | case1 st outcome => exact ⟨[], by simp, h⟩
  | case2 st ms task => exact ⟨[], by simp, h⟩
  | case3 st task p st' hstep ih =>
    obtain ⟨moves, hof, hreaches⟩ := h.step (f := f) rfl
    rw [hstep] at hreaches
    exact Reaches.followedBy hof (ih hreaches)

/-- A callback that has waited goes on until it is over or has to wait again, as
`Filter.resume` has it. -/
theorem Reaches.resume (h : T.Reaches i thread p st) (ht : p.task? = some task) :
    ∃ moves, (∀ m ∈ moves, Move.IsOf i m) ∧
      (T.run f moves).Reaches i thread (f.resume task st).1.progress (f.resume task st).2 := by
  obtain ⟨moves, hof, hreaches⟩ := h.step (f := f) ht
  rw [Filter.resume, Filter.goOn]
  exact Reaches.followedBy hof hreaches.goOn

/-- A callback that waits comes to its end, as `Filter.finish` has it. -/
theorem Reaches.finish {ms : Nat} (h : T.Reaches i thread (.waiting ms task) st) :
    ∃ moves, (∀ m ∈ moves, Move.IsOf i m) ∧
      (T.run f moves).Reaches i thread (.done (f.finish task st).1) (f.finish task st).2 := by
  fun_induction Filter.finish f task st generalizing T ms with
  | case1 task st outcome st' hresume =>
    refine Reaches.followedBy (Move.isOf_elsewhere i (st.settle f)) ?_
    have hresumed := (h.settle (f := f)).resume (f := f) rfl
    rwa [hresume] at hresumed
  | case2 task st ms' next st' hresume ih =>
    refine Reaches.followedBy (Move.isOf_elsewhere i (st.settle f)) ?_
    obtain ⟨moves, hof, hreaches⟩ := (h.settle (f := f)).resume (f := f) rfl
    rw [hresume] at hreaches
    exact Reaches.followedBy hof (ih hreaches)

/-- **Running a callback to its end with `Filter.run` is traffic**: it is taken, and then makes its moves
with nothing but what goes on in the background in between. -/
theorem run_call (f : Filter σ) (T : Traffic σ) (session : Option Uuid) (c : Callback) :
    ∃ moves, (∀ m ∈ moves, Move.IsOf T.threads.length m) ∧
      (T.run f (.call session c :: moves)).state = (f.run session c T.state).2 ∧
      (T.run f (.call session c :: moves)).threads[T.threads.length]?
        = some ⟨session, c, .done (f.run session c T.state).1⟩ := by
  have hcall : (T.move f (.call session c)).Reaches T.threads.length
      ⟨session, c, Filter.call session c T.state⟩ (Filter.call session c T.state) T.state :=
    ⟨List.getElem?_concat_length, rfl⟩
  obtain ⟨moves, hof, hreaches⟩ := hcall.goOn (f := f)
  rw [Filter.run, Filter.start]
  rcases hgo : f.goOn (Filter.call session c T.state) T.state with ⟨outcome | ⟨ms, task⟩, st⟩
  · rw [hgo] at hreaches
    exact ⟨moves, hof, hreaches.state, hreaches.thread⟩
  · rw [hgo] at hreaches
    obtain ⟨moves', hof', hreaches'⟩ := hreaches.finish (f := f)
    refine ⟨moves ++ moves', fun m hm => (List.mem_append.1 hm).elim (hof m) (hof' m), ?_⟩
    have hrun : T.run f (.call session c :: (moves ++ moves'))
        = ((T.move f (.call session c)).run f moves).run f moves' := run_append f _ moves moves'
    rw [hrun]
    exact ⟨hreaches'.state, hreaches'.thread⟩

end Traffic

end MailFilter
