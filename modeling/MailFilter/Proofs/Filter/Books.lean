/-
What a filter does to a part of its memory, and to what modules have to be told.

Checkers may leave a part of the memory alone, unless they are told about a verdict. If they all do, no
task changes anything of it; and a task notes nothing but what the results ask for on which a verdict
rests.

* `step_complete_of_prompt`: a message whose checks take no time is judged at once;
* `sameBooks_step`: what a task notes, and that it leaves the part alone.
-/
import MailFilter.Proofs.Filter.Alone
import MailFilter.Proofs.Filter.ToEnd

namespace MailFilter

variable {σ τ : Type}

/-! ### Started checks -/

namespace Judging

/-- The checks that can still be cancelled are those of checkers that are `enabled`. -/
def Employs (registry : Registry σ) (j : Judging σ) : Prop :=
  ∀ a ∈ j.pending, ∀ g, a.onCancel = some g → ∃ c ∈ registry.enabled, g = c.cancelled

variable {registry : Registry σ} {j : Judging σ}

theorem employs_startAll {config : Config} {ctx : CheckContext} {now : Timestamp} {place : Nat}
    {cs : List (Checker σ)} {s : σ} {a : Arrival σ} {g : σ → σ}
    (ha : a ∈ (startAll config ctx now place cs s).1) (hg : a.onCancel = some g) :
    ∃ c ∈ cs, g = c.cancelled := by
  induction cs generalizing place s with
  | nil => cases ha
  | cons c cs ih =>
    rcases List.mem_cons.1 ha with rfl | ha
    · refine ⟨c, List.mem_cons_self, ?_⟩
      simp only [arrivalOf, Option.ite_none_right_eq_some, Option.some.injEq] at hg
      exact hg.2.symm
    · obtain ⟨c', hc', rfl⟩ := ih ha
      exact ⟨c', List.mem_cons_of_mem _ hc', rfl⟩

theorem employs_start (registry : Registry σ) (config : Config) (ctx : CheckContext)
    (now : Timestamp) (s : σ) : (start registry config ctx now s).1.Employs registry := by
  intro a ha g hg
  have hstarted : a ∈ (startAll config ctx now 0 registry.enabled s).1 :=
    (List.mergeSort_perm ..).subset ha
  exact employs_startAll hstarted hg

/-- Nothing arrives that has not been `pending`. -/
theorem mem_pending_of_receive {a b : Arrival σ} {m : Metrics} {s : σ}
    (h : b ∈ (receive a j m s).1.pending) : b ∈ j.pending := by
  unfold receive at h
  split at h
  · exact h
  · dsimp only at h
    split at h
    · exact (List.mem_filter.1 h).1
    · exact h

theorem mem_pending_of_receiveWhile {p : Arrival σ → Bool} {m : Metrics} {s : σ} {b : Arrival σ}
    (hb : b ∈ (receiveWhile p j m s).1.pending) : b ∈ j.pending := by
  fun_induction receiveWhile p j m s with
  | case1 | case3 => exact hb
  | case2 j m s a rest h hp next ih =>
    rw [h]
    exact List.mem_cons_of_mem _ (mem_pending_of_receive (j := { j with pending := rest }) (ih hb))

/-- Nothing is left to wait for in `pending` if all has arrived that passes `p`. -/
theorem pending_receiveWhile_eq_nil {p : Arrival σ → Bool}
    (h : ∀ a ∈ j.pending, p a = true) (m : Metrics) (s : σ) :
    (receiveWhile p j m s).1.pending = [] := by
  fun_induction receiveWhile p j m s with
  | case1 j m s hpending => exact hpending
  | case2 j m s a rest hpending hp next ih =>
    refine ih fun b hb => h b (hpending ▸ List.mem_cons_of_mem a ?_)
    exact mem_pending_of_receive (j := { j with pending := rest }) hb
  | case3 j m s a rest hpending hp => exact absurd (h a (hpending ▸ List.mem_cons_self)) hp

theorem Employs.receiveWhile (h : j.Employs registry) (p : Arrival σ → Bool) (m : Metrics) (s : σ) :
    (Judging.receiveWhile p j m s).1.Employs registry :=
  fun a ha => h a (mem_pending_of_receiveWhile ha)

end Judging

namespace Filter

/-- A message whose checks take no time comes to its verdict `verdictAt` at once. -/
theorem step_complete_of_prompt {f : Filter σ} {st : FilterState σ} {config : Config}
    {ctx : CheckContext} (h : ∀ a ∈ (f.judgingAt st config ctx).pending, a.atMs = 0) (id : Uuid) :
    ∃ st', Waited st st' ∧ step f st (.complete id config ctx)
      = (.next (.ruled (ruled id config ctx (f.verdictAt st config ctx))), { st' with
          metrics := st'.metrics.noteVerdict
            (ruled id config ctx (f.verdictAt st config ctx)).verdict.action }) := by
  refine ⟨_, (waited_startedAt f st config ctx).trans
    (waited_receiveUntil 0 (f.judgingAt st config ctx) _), ?_⟩
  refine (judge_eq f id config ctx st).trans
    (judgeOn_of_settled ((settles_judgingAt f st config ctx).receiveWhile _ _ _) ?_ _)
  rw [Judging.waitMs?, Option.map_eq_none_iff, List.head?_eq_none_iff]
  exact Judging.pending_receiveWhile_eq_nil (fun a ha => by simp [h a ha]) _ _

end Filter

/-! ### Checkers that leave a part of the memory alone -/

/-- The checker `c` leaves the part `l` of the memory as it is, unless it is told about a verdict by its
`followUp`. -/
structure Checker.Observes (l : Focus σ τ) (c : Checker σ) : Prop where
  check : ∀ ctx now s, l.get (c.check ctx now s).2 = l.get s
  cancelled : ∀ s, l.get (c.cancelled s) = l.get s
  gate : ∀ connection recipient s, l.get (c.gate connection recipient s).2 = l.get s
  sessionEnded : ∀ record s, l.get (c.sessionEnded record s) = l.get s

section

variable {l : Focus σ τ} {cs : List (Checker σ)}

theorem Judging.get_startAll (h : ∀ c ∈ cs, c.Observes l) (config : Config) (ctx : CheckContext)
    (now : Timestamp) (place : Nat) (s : σ) :
    l.get (startAll config ctx now place cs s).2 = l.get s := by
  induction cs generalizing place s with
  | nil => rfl
  | cons c cs ih =>
    obtain ⟨hc, hcs⟩ := List.forall_mem_cons.1 h
    rw [startAll]
    exact (ih hcs _ _).trans (hc.check ctx now s)

namespace Registry

theorem get_sessionEnded {r : Registry σ} (h : ∀ c ∈ r.enabled, c.Observes l)
    (record : SessionRecord) (s : σ) : l.get (r.sessionEnded record s) = l.get s := by
  unfold sessionEnded
  generalize r.enabled = cs at h
  induction cs generalizing s with
  | nil => rfl
  | cons c cs ih =>
    obtain ⟨hc, hcs⟩ := List.forall_mem_cons.1 h
    exact (ih _ hcs).trans (hc.sessionEnded record s)

theorem get_askFrom (h : ∀ c ∈ cs, c.Observes l) (connection : Connection) (recipient : Address)
    (deferred : Option RecipientVerdict) (s : σ) :
    l.get (askFrom connection recipient deferred cs s).2 = l.get s := by
  induction cs generalizing deferred s with
  | nil => rfl
  | cons c cs ih =>
    obtain ⟨hc, hcs⟩ := List.forall_mem_cons.1 h
    have hgate := hc.gate connection recipient s
    simp only [askFrom]
    split
    · split
      · exact hgate
      · split
        · exact hgate
        · exact (ih hcs _ _).trans hgate
    · exact hgate

theorem get_askOn (h : ∀ c ∈ cs, c.Observes l) (connection : Connection) (recipient : Address)
    (outcome : GateOutcome) (deferred : Option RecipientVerdict) (s : σ) :
    l.get (askOn connection recipient outcome deferred cs s).2 = l.get s := by
  unfold askOn
  split
  · rfl
  · split
    · rfl
    · exact get_askFrom h ..

end Registry

namespace Judging

variable {registry : Registry σ} {j : Judging σ}

theorem get_cancel (h : ∀ c ∈ registry.enabled, c.Observes l) (hj : j.Employs registry) (s : σ) :
    l.get (j.cancel s).2 = l.get s := by
  have hfold : ∀ (arrivals : List (Arrival σ)), (∀ a ∈ arrivals, a ∈ j.pending) → ∀ s,
      l.get (arrivals.foldl (fun s a => (a.onCancel.getD id) s) s) = l.get s := by
    intro arrivals
    induction arrivals with
    | nil => exact fun _ _ => rfl
    | cons a rest ih =>
      intro hall s
      obtain ⟨ha, hrest⟩ := List.forall_mem_cons.1 hall
      refine (ih hrest _).trans ?_
      show l.get ((a.onCancel.getD id) s) = l.get s
      cases hg : a.onCancel with
      | none => rfl
      | some g =>
        obtain ⟨c, hc, rfl⟩ := hj a ha g hg
        exact (h c hc).cancelled s
  refine hfold _ (fun a ha => ?_) s
  exact (List.mem_filter.1 ((List.mergeSort_perm ..).subset ha)).1

theorem get_receive (h : ∀ c ∈ registry.enabled, c.Observes l) (hj : j.Employs registry)
    (a : Arrival σ) (m : Metrics) (s : σ) : l.get (receive a j m s).2.2 = l.get s := by
  unfold receive
  cases a.result with
  | none => rfl
  | some r =>
    dsimp only
    split
    · exact get_cancel (j := { j with
        elapsedMs := a.atMs, collection := j.collection.add j.scoring a.place r }) h hj s
    · rfl

theorem get_receiveWhile (h : ∀ c ∈ registry.enabled, c.Observes l) (hj : j.Employs registry)
    (p : Arrival σ → Bool) (m : Metrics) (s : σ) :
    l.get (receiveWhile p j m s).2.2 = l.get s := by
  fun_induction receiveWhile p j m s with
  | case1 | case3 => rfl
  | case2 j m s a rest hpending hp next ih =>
    have hrest : Employs registry { j with pending := rest } :=
      fun b hb => hj b (hpending ▸ List.mem_cons_of_mem a hb)
    refine (ih fun b hb => hrest b (mem_pending_of_receive hb)).trans ?_
    exact get_receive h hrest a m s

end Judging

end

/-! ### Books -/

/-- The part `l` of the memory is as before, and so are the clock and what modules have to be told. -/
structure FilterState.SameBooks (l : Focus σ τ) (st st' : FilterState σ) : Prop where
  part : l.get st'.memory = l.get st.memory
  followUps : st'.followUps = st.followUps
  clock : st'.clock = st.clock

namespace FilterState.SameBooks

variable {l : Focus σ τ} {st st₁ st₂ : FilterState σ}

theorem refl (l : Focus σ τ) (st : FilterState σ) : st.SameBooks l st := ⟨rfl, rfl, rfl⟩

theorem trans (h : st.SameBooks l st₁) (h' : st₁.SameBooks l st₂) : st.SameBooks l st₂ :=
  ⟨h'.part.trans h.part, h'.followUps.trans h.followUps, h'.clock.trans h.clock⟩

end FilterState.SameBooks

/-- The state in which a task finds the books, once it has noted what the modules want to be told: only
`concluded` notes anything. -/
def Task.books (st : FilterState σ) : Task σ → FilterState σ
  | concluded r _ => st.noteFollowUps (r.verdict.followUps r.verdict.action)
  | _ => st

namespace Filter

variable {f : Filter σ} {l : Focus σ τ} {st : FilterState σ}

theorem sameBooks_locked {β : Type} (id : Uuid) (stage : Stage) (change : Change Session β)
    (next : β → Progress σ) (st : FilterState σ) :
    st.SameBooks l (locked id stage change next st).2 := by
  unfold locked changeHeld
  cases st.sessions.held? id with
  | none => exact .refl l st
  | some s =>
    dsimp only
    rcases change s with ⟨_ | _, s'⟩ <;> exact ⟨rfl, rfl, rfl⟩

theorem sameBooks_answerFailure (stage : Stage) (id : Option Uuid) (e : Failure)
    (st : FilterState σ) : st.SameBooks l (answerFailure stage id e st).2 := by
  unfold answerFailure
  dsimp only
  split
  · split <;> exact ⟨rfl, rfl, rfl⟩
  · exact ⟨rfl, rfl, rfl⟩

theorem sameBooks_finish (h : ∀ c ∈ f.registry.enabled, c.Observes l) (pruned : Bool)
    (s : Session) (st : FilterState σ) : st.SameBooks l (st.finish f pruned s) :=
  ⟨Registry.get_sessionEnded h .., rfl, rfl⟩

/-- Ending sessions leaves the books alone, as `SameBooks` says, if ending one does. -/
theorem sameBooks_foldl {g : FilterState σ → Session → FilterState σ}
    (hg : ∀ (st : FilterState σ) s, st.SameBooks l (g st s)) (removed : List Session) (st : FilterState σ) :
    st.SameBooks l (removed.foldl g st) := by
  induction removed generalizing st with
  | nil => exact .refl l st
  | cons s rest ih => exact (hg st s).trans (ih _)

theorem sameBooks_leave (h : ∀ c ∈ f.registry.enabled, c.Observes l) (id : Uuid)
    (st : FilterState σ) : st.SameBooks l (st.leave f id) := by
  obtain ⟨hpart, hfollowUps, hclock⟩ := sameBooks_foldl (fun st s => sameBooks_finish h false s st)
    (st.sessions.remove id).1 { st with sessions := (st.sessions.remove id).2 }
  exact ⟨hpart, hfollowUps, hclock⟩

theorem sameBooks_prune (h : ∀ c ∈ f.registry.enabled, c.Observes l) (now : Timestamp)
    (st : FilterState σ) : st.SameBooks l (st.prune f now).2 := by
  obtain ⟨hpart, hfollowUps, hclock⟩ := sameBooks_foldl (l := l) (g := FilterState.evict f)
    (fun st s => by
      obtain ⟨hp, hf, hc⟩ := sameBooks_finish h true s
        ({ st with metrics := st.metrics.notePruned } : FilterState σ)
      exact ⟨hp, hf, hc⟩)
    (st.sessions.removeExpired f.maxAgeSecs now).1
    { st with sessions := (st.sessions.removeExpired f.maxAgeSecs now).2 }
  exact ⟨hpart, hfollowUps, hclock⟩

theorem sameBooks_judgeOn (id : Uuid) (config : Config) (ctx : CheckContext) (j : Judging σ)
    (st : FilterState σ) : st.SameBooks l (judgeOn id config ctx j st).2 := by
  unfold judgeOn
  split <;> exact ⟨rfl, rfl, rfl⟩

theorem sameBooks_receiveUntil (h : ∀ c ∈ f.registry.enabled, c.Observes l) {j : Judging σ}
    (hj : j.Employs f.registry) (ms : Nat) (st : FilterState σ) :
    st.SameBooks l (receiveUntil ms j st).2 :=
  ⟨Judging.get_receiveWhile h hj .., rfl, rfl⟩

theorem sameBooks_judge (h : ∀ c ∈ f.registry.enabled, c.Observes l) (id : Uuid) (config : Config)
    (ctx : CheckContext) (st : FilterState σ) :
    st.SameBooks l (judge f id config ctx st).2 := by
  have hstarted : st.SameBooks l (f.startedAt st config ctx) :=
    ⟨Judging.get_startAll h .., rfl, rfl⟩
  rw [judge_eq]
  refine (hstarted.trans ?_).trans (sameBooks_judgeOn ..)
  exact sameBooks_receiveUntil h (Judging.employs_start _ _ _ _ _) ..

/-- What a task notes for the modules, in `Task.books`, is all that it does to the books. -/
theorem sameBooks_step (h : ∀ c ∈ f.registry.enabled, c.Observes l) {task : Task σ}
    (hunasked : ∀ c ∈ task.unasked, c ∈ f.registry.enabled)
    (hemploys : ∀ id config ctx j, task = .judging id config ctx j → j.Employs f.registry)
    (st : FilterState σ) : (task.books st).SameBooks l (step f st task).2 := by
  cases task with
  | called id c =>
    show st.SameBooks l (act f id c st).2
    by_cases hc : c = .close
    · subst hc
      exact sameBooks_leave h id st
    · rw [act_eq f id hc]
      obtain ⟨hpart, hfollowUps, hclock⟩ := sameBooks_locked (l := l) id c.stage
        ((c.change (Uuid.issued st.serial) st.clock).andThen (Change.look fun s => s))
        (fun s => follow s c) st.fresh.2
      exact ⟨hpart, hfollowUps, hclock⟩
  | asking id connection recipient =>
    -- a question leaves the observed part of the memory alone, and the rest of the books
    have hpart := Registry.get_askFrom h connection recipient none st.memory
    simp only [step, gateOn]
    split <;> exact ⟨hpart, rfl, rfl⟩
  | gating id connection recipient outcome deferred rest =>
    have hpart := Registry.get_askOn (fun c hc => h c (hunasked c hc)) connection recipient outcome
      deferred st.memory
    simp only [step, gateOn]
    split <;> exact ⟨hpart, rfl, rfl⟩
  | gated id connection recipient answer =>
    simp only [step, gated]
    split
    · exact sameBooks_locked ..
    · exact .refl l st
  | complete id config ctx => exact sameBooks_judge h id config ctx st
  | judging id config ctx j =>
    exact (sameBooks_receiveUntil h (hemploys id config ctx j rfl) _ st).trans
      (sameBooks_judgeOn ..)
  | ruled r => exact sameBooks_locked ..
  | concluded r record => exact .refl l _
  | told r record => exact ⟨rfl, rfl, rfl⟩
  | interrupted stage id reason =>
    cases reason with
    | failure e => exact sameBooks_answerFailure ..
    | panic p =>
      simp only [step, answerInterruption]
      split
      · exact ⟨rfl, rfl, rfl⟩
      · obtain ⟨hpart, hfollowUps, hclock⟩ := sameBooks_answerFailure (l := l) stage id
          (.panicked p.reason) { st with metrics := st.metrics.notePanic }
        exact ⟨hpart, hfollowUps, hclock⟩

end Filter

end MailFilter
