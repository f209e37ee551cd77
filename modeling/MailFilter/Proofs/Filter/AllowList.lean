/-
A client on the allow list, task by task.

What a task has kept of the session, and what has been ruled for its message, is in favour of such a
client, and a task that is in its favour leads to nothing else: to another one, or to the reply to go
on. The session must still be there when a failure is answered, and panics must not be let out.

* `clients_step`: no task changes which client a session is with;
* `favours_step`: a task in favour of the client leads to nothing else.
-/
import MailFilter.Proofs.Filter.Outcome
import MailFilter.Proofs.Session.AllowList
import MailFilter.Proofs.Verdict.Deciding

namespace MailFilter

variable {σ : Type}

namespace Filter

/-! ### The table of sessions -/

theorem clients_locked {β : Type} {st : FilterState σ} (hd : st.sessions.Distinct)
    {change : Change Session β} (h : change.Keeps Session.client) (id : Uuid) (stage : Stage)
    (next : β → Progress σ) :
    (locked id stage change next st).2.sessions.clients = st.sessions.clients := by
  cases hs : st.sessions.held? id with
  | none => simp only [locked, changeHeld, hs]
  | some s =>
    rw [locked_of_held hs]
    exact SessionTable.clients_update hd hs (h s)

theorem clients_act (f : Filter σ) {st : FilterState σ} (hd : st.sessions.Distinct) (id : Uuid)
    (c : Callback) : (act f id c st).2.sessions.clients = st.sessions.clients := by
  by_cases hc : c = .close
  · subst hc
    refine SessionTable.clients_of_all_eq ?_
    show (st.leave f id).sessions.all = st.sessions.all
    rw [(leave_keeps f id st).1]
    exact SessionTable.all_removeWhere ..
  · have hlook : (Change.look fun s : Session => s).Keeps Session.client := fun s => rfl
    have hfresh : st.fresh.2.sessions.Distinct := hd
    rw [act_eq f id hc]
    exact clients_locked hfresh
      ((c.keeps_change (Uuid.issued st.serial) st.clock).andThen hlook) id _ _

theorem clients_answerFailure {st : FilterState σ} (hd : st.sessions.Distinct) (stage : Stage)
    (id : Option Uuid) (e : Failure) :
    (answerFailure stage id e st).2.sessions.clients = st.sessions.clients := by
  unfold answerFailure
  dsimp only
  split
  · next s hs =>
    split
    · obtain ⟨id, -, hfind⟩ := Option.bind_eq_some_iff.1 hs
      exact SessionTable.clients_update hd (SessionTable.held?_of_find? hd hfind) rfl
    · rfl
  · rfl

/-- No task changes which `client` a session is with. -/
theorem clients_step (f : Filter σ) {st : FilterState σ} (hd : st.sessions.Distinct)
    (task : Task σ) : (f.step st task).2.sessions.clients = st.sessions.clients := by
  cases task with
  | called id c => exact clients_act f hd id c
  | asking id connection recipient | gating id connection recipient outcome deferred rest =>
    simp only [step, gateOn]
    split <;> rfl
  | gated id connection recipient answer =>
    simp only [step, gated]
    split
    · exact clients_locked hd (SessionChange.keeps_changeCurrent _ _) ..
    · rfl
  | complete id config ctx =>
    simp only [step, judge, judgeOn, receiveUntil]
    split <;> rfl
  | judging id config ctx j =>
    simp only [step, judgeOn, receiveUntil]
    split <;> rfl
  | ruled r => exact clients_locked hd (SessionChange.keeps_changeCurrent _ _) ..
  | concluded r record | told r record => rfl
  | interrupted stage id reason =>
    cases reason with
    | failure e => exact clients_answerFailure hd stage id e
    | panic p =>
      simp only [step, answerInterruption]
      split
      · rfl
      · have hd' : ({ st with metrics := st.metrics.notePanic } : FilterState σ).sessions.Distinct :=
          hd
        exact clients_answerFailure hd' stage id _

end Filter

/-! ### Tasks in favour of a client -/

/-- What a task has kept of the session, or what has been ruled, is in favour of the client. -/
def Task.Favours : Task σ → Prop
  | called _ _ | interrupted _ _ _ => True
  | asking _ connection _ | gating _ connection _ _ _ _ | gated _ connection _ _ =>
    connection.allowListed = true
  | complete _ _ ctx | judging _ _ ctx _ => ctx.connection.allowListed = true
  | ruled r | concluded r _ | told r _ => r.verdict.action = .permit

/-- The client is told to go on, or the next task `Favours` it. -/
def Progress.Favours : Progress σ → Prop
  | done outcome => ∃ answer, outcome = .ok answer ∧ answer.reply = .proceed
  | next task | waiting _ task => task.Favours

theorem Ruling.reply_answer {r : Ruling} (h : r.verdict.action = .permit) :
    r.answer.reply = .proceed := by
  simp only [answer, h, Reply.ofVerdict, ite_self]

namespace Filter

variable {st : FilterState σ} {id : Uuid} {s : Session}

theorem favours_replied : (.replied .proceed : Progress σ).Favours :=
  ⟨_, rfl, rfl⟩

theorem favours_failed (stage : Stage) (id : Option Uuid) (e : Failure) :
    (.failed stage id e : Progress σ).Favours :=
  trivial

/-- A failure of `locked` has still to be answered, so it favours the client, too. -/
theorem favours_locked {β : Type} {next : β → Progress σ} (hnext : ∀ b, (next b).Favours)
    (id : Uuid) (stage : Stage) (change : Change Session β) (st : FilterState σ) :
    (locked id stage change next st).1.Favours := by
  unfold locked
  split
  · exact hnext _
  · exact favours_failed ..

theorem favours_follow (hs : s.isAllowListed = true) (c : Callback) :
    (follow s c : Progress σ).Favours := by
  unfold follow
  split
  · exact hs
  · split
    · exact hs
    · exact favours_failed ..
  · exact favours_replied

theorem favours_act (f : Filter σ) (hs : st.sessions.held? id = some s)
    (hallow : s.isAllowListed = true) (c : Callback) : (act f id c st).1.Favours := by
  by_cases hc : c = .close
  · subst hc
    exact favours_replied
  · have hs' : st.fresh.2.sessions.held? id = some s := hs
    have hkeeps := c.keeps_change (Uuid.issued st.serial) st.clock s
    rw [act_eq f id hc, locked_of_held hs', Change.andThen]
    rcases hchange : c.change (Uuid.issued st.serial) st.clock s with ⟨_ | _, s'⟩
    · exact favours_failed ..
    · rw [hchange] at hkeeps
      exact favours_follow ((congrArg Prod.snd hkeeps).trans hallow) c

theorem favours_gateOn {connection : Connection} (h : connection.allowListed = true) (id : Uuid)
    (recipient : Address) (gating : Registry.Gating σ × σ) (st : FilterState σ) :
    (gateOn id connection recipient gating st).1.Favours := by
  unfold gateOn
  dsimp only
  split
  · exact h
  · trivial
  · exact h

theorem favours_gated {connection : Connection} (h : connection.allowListed = true) (id : Uuid)
    (recipient : Address) (answer : RecipientVerdict) (st : FilterState σ) :
    (gated id connection recipient answer st).1.Favours := by
  have hreply : Reply.ofRecipient connection.allowListed answer.action answer.message = .proceed := by
    simp [Reply.ofRecipient, h]
  unfold gated
  dsimp only
  rw [if_pos hreply, hreply]
  exact favours_locked (fun _ => favours_replied) ..

theorem favours_judgeOn {ctx : CheckContext} (h : ctx.connection.allowListed = true) (id : Uuid)
    (config : Config) (j : Judging σ) (st : FilterState σ) :
    (judgeOn id config ctx j st).1.Favours := by
  unfold judgeOn
  split
  · exact h
  · rw [h]
    exact Verdict.action_effective true _

/-- A failure is answered in favour of a client on the list, as long as `find?` finds its session. -/
theorem favours_answerFailure (hfind : st.sessions.find? id = some s)
    (hallow : s.isAllowListed = true) (stage : Stage) (e : Failure) :
    (answerFailure stage (some id) e st).1.Favours := by
  unfold answerFailure
  dsimp only [Option.bind_some]
  rw [hfind]
  simp only [hallow, Reply.ofFailure, if_true]
  exact favours_replied

theorem favours_answerInterruption (hfind : st.sessions.find? id = some s)
    (hallow : s.isAllowListed = true) (hcalm : st.config.milter.propagatePanics = false)
    (stage : Stage) (reason : Interruption) :
    (answerInterruption stage (some id) st reason).1.Favours := by
  cases reason with
  | failure e => exact favours_answerFailure hfind hallow stage e
  | panic p =>
    unfold answerInterruption
    dsimp only
    rw [if_neg (by simp [hcalm])]
    have hfind' : ({ st with metrics := st.metrics.notePanic } : FilterState σ).sessions.find? id
        = some s := hfind
    exact favours_answerFailure hfind' hallow stage _

/-- A task that `Favours` the client leads to nothing else. -/
theorem favours_step (f : Filter σ) {task : Task σ} (hd : st.sessions.Distinct)
    (hid : task.session? = some id) (hfind : st.sessions.find? id = some s)
    (hallow : s.isAllowListed = true) (hcalm : st.config.milter.propagatePanics = false)
    (h : task.Favours) : (f.step st task).1.Favours := by
  cases task with
  | called i c =>
    obtain rfl : i = id := Option.some.inj hid
    exact favours_act f (SessionTable.held?_of_find? hd hfind) hallow c
  | asking i connection recipient | gating i connection recipient outcome deferred rest =>
    exact favours_gateOn h ..
  | gated i connection recipient answer => exact favours_gated h ..
  | complete i config ctx => exact favours_judgeOn h ..
  | judging i config ctx j => exact favours_judgeOn h ..
  | ruled r =>
    refine favours_locked (fun record => ?_) ..
    exact h
  | concluded r record => exact h
  | told r record => exact ⟨_, rfl, Ruling.reply_answer h⟩
  | interrupted stage i reason =>
    obtain rfl : i = some id := hid
    exact favours_answerInterruption hfind hallow hcalm stage reason

/-- A recipient without an address is refused by `call` before anything has asked who the client is. -/
theorem call_withoutRecipient (hfind : st.sessions.find? id = some s) :
    call (some id) (.envRcpt []) st = .replied (.reject Reply.badRecipientText) := by
  unfold call
  rw [Option.bind_some, hfind]

/-- Any other callback that finds its session is taken: `call` goes on with it. -/
theorem call_of_find? (hfind : st.sessions.find? id = some s) {c : Callback} (hc : c ≠ .envRcpt []) :
    call (some id) c st = .next (.called id c) := by
  have hid : s.id = id := by simpa using List.find?_some hfind
  unfold call
  rw [Option.bind_some, hfind, ← hid]
  cases c with
  | envRcpt args =>
    cases args with
    | nil => exact absurd rfl hc
    | cons arg rest => rfl
  | _ => rfl

/-- A callback is taken in favour of a client on the list, unless it is a recipient without an
address. -/
theorem favours_call (hfind : st.sessions.find? id = some s) {c : Callback} (hc : c ≠ .envRcpt []) :
    (call (some id) c st).Favours := by
  rw [call_of_find? hfind hc]
  trivial

end Filter

end MailFilter
