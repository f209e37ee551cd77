/-
The same task in two states.

Which part of a state a task depends on is said by a relation between states. What a task is made of
does the same in two related states and leaves related ones, if the relation is kept by the changes that
it makes: these are the hypotheses here, one for each kind of change.

* `matches_locked`, `matches_act`: work on a session;
* `matches_gateOn`, `matches_receive`: what checkers have found is taken further;
* `matches_answerFailure`: a failure is answered.
-/
import MailFilter.Proofs.Filter.Outcome

namespace MailFilter.Filter

variable {σ : Type} {R : FilterState σ → FilterState σ → Prop} {st st' : FilterState σ} {id : Uuid}

/-- The callback goes the same way in `r` and `r'`, and `R` still relates the states. -/
def Matches (R : FilterState σ → FilterState σ → Prop) (r r' : Progress σ × FilterState σ) : Prop :=
  r'.1 = r.1 ∧ R r.2 r'.2

theorem matches_locked (h : R st st') (hheld : st'.sessions.held? id = st.sessions.held? id)
    (hupdate : ∀ s, R (st.update s) (st'.update s)) {β : Type} (stage : Stage)
    (change : Change Session β) (next : β → Progress σ) :
    Matches R (locked id stage change next st) (locked id stage change next st') := by
  unfold locked changeHeld
  rw [hheld]
  cases st.sessions.held? id with
  | none => exact ⟨rfl, h⟩
  | some s =>
    dsimp only
    rcases change s with ⟨result, s'⟩
    cases result <;> exact ⟨rfl, hupdate s'⟩

/-- A callback begins its work with `act`: it leaves, or it changes its session with the next identifier
and the time at hand. -/
theorem matches_act (f : Filter σ) (hclock : st'.clock = st.clock) (hserial : st'.serial = st.serial)
    (hheld : st'.sessions.held? id = st.sessions.held? id)
    (hleave : R (st.leave f id) (st'.leave f id)) (hfresh : R st.fresh.2 st'.fresh.2)
    (hupdate : ∀ s, R (st.fresh.2.update s) (st'.fresh.2.update s)) (c : Callback) :
    Matches R (act f id c st) (act f id c st') := by
  by_cases hc : c = .close
  · subst hc
    exact ⟨rfl, hleave⟩
  · rw [act_eq f id hc, act_eq f id hc, hserial, hclock]
    exact matches_locked hfresh hheld hupdate ..

theorem matches_gateOn {gating gating' : Registry.Gating σ × σ} (hgating : gating'.1 = gating.1)
    (h : R { st with memory := gating.2 } { st' with memory := gating'.2 })
    (connection : Connection) (recipient : Address) :
    Matches R (gateOn id connection recipient gating st)
      (gateOn id connection recipient gating' st') := by
  unfold gateOn
  dsimp only
  rw [hgating]
  split <;> exact ⟨rfl, h⟩

theorem matches_judgeOn (h : R st st')
    (hnoted : ∀ action, R { st with metrics := st.metrics.noteVerdict action }
      { st' with metrics := st'.metrics.noteVerdict action })
    (config : Config) (ctx : CheckContext) (j : Judging σ) :
    Matches R (judgeOn id config ctx j st) (judgeOn id config ctx j st') := by
  unfold judgeOn
  split
  · exact ⟨rfl, h⟩
  · exact ⟨rfl, hnoted _⟩

/-- What has arrived for a message is taken in by `receiveUntil`: it is the same whatever has been
measured and whatever the checkers remember. -/
theorem matches_receive {ms : Nat} {j : Judging σ}
    (h : ∀ metrics metrics', R { (receiveUntil ms j st).2 with metrics }
      { (receiveUntil ms j st').2 with metrics := metrics' })
    (config : Config) (ctx : CheckContext) :
    Matches R (judgeOn id config ctx (receiveUntil ms j st).1 (receiveUntil ms j st).2)
      (judgeOn id config ctx (receiveUntil ms j st').1 (receiveUntil ms j st').2) := by
  have hjudging : (receiveUntil ms j st').1 = (receiveUntil ms j st).1 :=
    Judging.receiveWhile_congr ..
  rw [hjudging]
  exact matches_judgeOn (h _ _) (fun _ => h _ _) ..

theorem matches_answerFailure {stage : Stage} {session : Option Uuid} {e : Failure}
    (hfind : session.bind st'.sessions.find? = session.bind st.sessions.find?)
    (h : R { st with metrics := st.metrics.noteFailure stage e.isViolation }
      { st' with metrics := st'.metrics.noteFailure stage e.isViolation })
    (hupdate : ∀ s,
      R (FilterState.update s { st with metrics := st.metrics.noteFailure stage e.isViolation })
        (FilterState.update s { st' with metrics := st'.metrics.noteFailure stage e.isViolation })) :
    Matches R (answerFailure stage session e st) (answerFailure stage session e st') := by
  unfold answerFailure
  dsimp only
  rw [hfind]
  cases session.bind st.sessions.find? with
  | none => exact ⟨rfl, h⟩
  | some s =>
    dsimp only
    split
    · exact ⟨rfl, hupdate _⟩
    · exact ⟨rfl, h⟩

end MailFilter.Filter
