/-
What one task of a callback does to the session it works on, and what follows.

`Task.Outcome` lists the cases, with nothing said of the checkers but which verdict theirs is. Proofs
about runs go through these cases and never through `Filter.step`.

* `outcome_step`: a task on a session that is held has one of the outcomes, and no other session
  changes.
-/
import MailFilter.Proofs.Message.Rewriting
import MailFilter.Proofs.Session.Change
import MailFilter.Proofs.Session.Table
import MailFilter.Proofs.Verdict.Judging

namespace MailFilter

variable {σ : Type}

namespace Task

/-- The session that a task works on. There is none if a callback has been taken without one. -/
def session? : Task σ → Option Uuid
  | called id _ | asking id _ _ | gating id _ _ _ _ _ | gated id _ _ _ => some id
  | complete id _ _ | judging id _ _ _ => some id
  | ruled r | concluded r _ | told r _ => some r.session
  | interrupted _ id _ => id

/-- The recipient that the checkers are asked about, and for which client: the task is `asking` or
`gating`. -/
def question? : Task σ → Option (Connection × Address)
  | asking _ connection recipient | gating _ connection recipient _ _ _ =>
    some (connection, recipient)
  | _ => none

/-- What is to be judged, and by which settings: the task is `complete` or `judging`. -/
def matter? : Task σ → Option (Config × CheckContext)
  | complete _ config ctx | judging _ config ctx _ => some (config, ctx)
  | _ => none

/-- Whether a task answers for a panic, which the settings of now may let out. -/
def isPanic : Task σ → Bool
  | interrupted _ _ (.panic _) => true
  | _ => false

/-- The verdicts `v` that the checks of a message may still come to. -/
def Foresees (f : Filter σ) : Task σ → Verdict Float → Prop
  | complete _ config ctx, v => ∃ now m s, v = (f.registry.judge config ctx now m s).1
  | judging _ _ _ j, v => j.Settles v
  | _, _ => False

/-- What can come of a task on the session `s`: with what the callback goes on, and the session
afterwards. -/
inductive Outcome (f : Filter σ) (st : FilterState σ) (id : Uuid) (s : Session) :
    Task σ → Progress σ → Session → Prop where
  | closed : Outcome f st id s (.called id .close) (.replied .proceed) s
  | failed {c : Callback} {e : Failure} {s' : Session} (hc : c ≠ .close)
      (he : c.Effect (Uuid.issued st.serial) st.clock s (.error e) s') :
      Outcome f st id s (.called id c) (.failed c.stage (some id) e) s'
  | followed {c : Callback} {s' : Session} (hc : c ≠ .close)
      (he : c.Effect (Uuid.issued st.serial) st.clock s (.ok ()) s') :
      Outcome f st id s (.called id c) (Filter.follow s' c) s'
  | decided {task : Task σ} {connection : Connection} {recipient : Address}
      {answer : RecipientVerdict} (hid : task.session? = some id)
      (hq : task.question? = some (connection, recipient)) :
      Outcome f st id s task (.next (.gated id connection recipient answer)) s
  | panicked {task : Task σ} {connection : Connection} {recipient : Address} {p : Panic}
      (hid : task.session? = some id) (hq : task.question? = some (connection, recipient)) :
      Outcome f st id s task (.next (.interrupted .envRcpt (some id) (.panic p))) s
  | asked {task : Task σ} {connection : Connection} {recipient : Address} {ms : Nat}
      {outcome : GateOutcome} {deferred : Option RecipientVerdict} {rest : List (Checker σ)}
      (hid : task.session? = some id) (hq : task.question? = some (connection, recipient)) :
      Outcome f st id s task
        (.waiting ms (.gating id connection recipient outcome deferred rest)) s
  | refused {connection : Connection} {recipient : Address} {answer : RecipientVerdict}
      {reply : Reply} (hr : reply ≠ .proceed) :
      Outcome f st id s (.gated id connection recipient answer) (.replied reply) s
  | accepted {connection : Connection} {recipient : Address} {answer : RecipientVerdict}
      {m : Message} (hm : s.current? = some m) :
      Outcome f st id s (.gated id connection recipient answer) (.replied .proceed)
        (s.replaceLast { m with recipients := m.recipients ++ [recipient] })
  | missed {connection : Connection} {recipient : Address} {answer : RecipientVerdict}
      (hm : s.current? = none) :
      Outcome f st id s (.gated id connection recipient answer)
        (.failed .envRcpt (some id) (.noMessage .envRcpt)) s
  | awaited {task : Task σ} {config : Config} {ctx : CheckContext} {v : Verdict Float} {ms : Nat}
      {j : Judging σ} (hid : task.session? = some id) (hm : task.matter? = some (config, ctx))
      (hv : task.Foresees f v) (hj : j.Settles v) :
      Outcome f st id s task (.waiting ms (.judging id config ctx j)) s
  | judged {task : Task σ} {config : Config} {ctx : CheckContext} {v : Verdict Float}
      (hid : task.session? = some id) (hm : task.matter? = some (config, ctx))
      (hv : task.Foresees f v) :
      Outcome f st id s task
        (.next (.ruled
          { session := id, config, ctx, verdict := v.effective ctx.connection.allowListed })) s
  | concluded {r : Ruling} {m : Message} {headers : List Header} (hr : r.session = id)
      (hm : s.current? = some m) (hid : m.id = r.ctx.message.id)
      (hl : Header.Ranked m.headers → Header.lines headers = m.lines.applyAll (r.outstanding m)) :
      Outcome f st id s (.ruled r)
        (.next (.concluded r ({ m with headers, verdict := some r.verdict } : Message).toRecord))
        (s.replaceLast { m with headers, verdict := some r.verdict })
  | lost {r : Ruling} (hr : r.session = id)
      (hm : ∀ m, s.current? = some m → m.id ≠ r.ctx.message.id) :
      Outcome f st id s (.ruled r) (.failed .eom (some id) (.noMessage .eom)) s
  | noted {r : Ruling} {record : MessageRecord} (hr : r.session = id) :
      Outcome f st id s (.concluded r record) (.next (.told r record)) s
  | handed {r : Ruling} {record : MessageRecord} (hr : r.session = id) :
      Outcome f st id s (.told r record) (.done (.ok r.answer)) s
  | answered {stage : Stage} {reason : Interruption} {outcome : Except Panic Answer} :
      Outcome f st id s (.interrupted stage (some id) reason) (.done outcome) s
  | ended {stage : Stage} {e : Failure} {outcome : Except Panic Answer}
      (he : e.isFatal = true) :
      Outcome f st id s (.interrupted stage (some id) (.failure e)) (.done outcome) s.fail

end Task

theorem Callback.Effect.id_eq {c : Callback} {message : Uuid} {now : Timestamp} {s s' : Session}
    {result : Except Failure Unit} (h : c.Effect message now s result s') : s'.id = s.id := by
  cases h with
  | abandoned _ =>
    unfold Session.abort
    cases s.current? <;> rfl
  | refused _ _ | greeted _ _ | begun _ _ | missed _ _ _ | touched _ _ _ _ _ => rfl

/-- A session keeps its identifier, whatever the `Outcome`. -/
theorem Task.Outcome.id_eq {f : Filter σ} {st : FilterState σ} {id : Uuid} {s s' : Session}
    {task : Task σ} {p : Progress σ} (h : task.Outcome f st id s p s') : s'.id = s.id := by
  cases h with
  | failed _ he | followed _ he => exact he.id_eq
  | _ => rfl

/-! ### Locking a session -/

namespace Filter

variable {f : Filter σ} {st : FilterState σ} {id : Uuid} {s : Session}

/-- Work with `locked` on a session that is held changes it in its place. -/
theorem locked_of_held {β : Type} (hs : st.sessions.held? id = some s) (stage : Stage)
    (change : Change Session β) (next : β → Progress σ) :
    locked id stage change next st =
      (match (change s).1 with
        | .ok b => next b
        | .error e => .failed stage (some id) e,
        st.update (change s).2) := by
  simp only [locked, changeHeld, hs]
  rcases change s with ⟨result, s'⟩
  cases result <;> rfl

/-- The `part` of the state that ending one session keeps is kept when all are ended that have been
removed. -/
theorem foldl_keeps {γ : Type} (part : FilterState σ → γ)
    {g : FilterState σ → Session → FilterState σ} (hg : ∀ st s, part (g st s) = part st)
    (removed : List Session) (st : FilterState σ) : part (removed.foldl g st) = part st := by
  induction removed generalizing st with
  | nil => rfl
  | cons s rest ih => exact (ih (g st s)).trans (hg st s)

theorem leave_keeps (f : Filter σ) (id : Uuid) (st : FilterState σ) :
    (st.leave f id).sessions = (st.sessions.remove id).2 ∧ (st.leave f id).serial = st.serial :=
  have hg : ∀ (st : FilterState σ) (s : Session),
      ((st.finish f false s).sessions, (st.finish f false s).serial) = (st.sessions, st.serial) :=
    fun _ _ => rfl
  Prod.mk.inj (foldl_keeps (fun st => (st.sessions, st.serial)) hg _ _)

theorem prune_keeps (f : Filter σ) (now : Timestamp) (st : FilterState σ) :
    (st.prune f now).2.sessions = (st.sessions.removeExpired f.maxAgeSecs now).2 ∧
      (st.prune f now).2.serial = st.serial :=
  have hg : ∀ (st : FilterState σ) (s : Session),
      ((st.evict f s).sessions, (st.evict f s).serial) = (st.sessions, st.serial) := fun _ _ => rfl
  Prod.mk.inj (foldl_keeps (fun st => (st.sessions, st.serial)) hg _ _)

/-! ### One task after the other -/

/-- What `result` a step leads to, for the session `s` that its task works on. -/
def Leads (f : Filter σ) (st : FilterState σ) (id : Uuid) (s : Session) (task : Task σ)
    (result : Progress σ × FilterState σ) : Prop :=
  ∃ s', task.Outcome f st id s result.1 s' ∧ st.sessions.Replaces result.2.sessions s'

/-- All callbacks but `close` change their session under its lock, with `Callback.change`. -/
theorem act_eq (f : Filter σ) (id : Uuid) {c : Callback} (hc : c ≠ .close) (st : FilterState σ) :
    act f id c st = locked id c.stage
      ((c.change (Uuid.issued st.serial) st.clock).andThen (Change.look fun s => s))
      (fun s => follow s c) st.fresh.2 := by
  cases c <;> first | rfl | exact absurd rfl hc

theorem leads_act (hd : st.sessions.Distinct) (hs : st.sessions.held? id = some s)
    (c : Callback) : Leads f st id s (.called id c) (act f id c st) := by
  by_cases hc : c = .close
  · subst hc
    refine ⟨s, .closed, SessionTable.replaces_of_all_eq hd hs ?_⟩
    show (st.leave f id).sessions.all = st.sessions.all
    rw [(leave_keeps f id st).1]
    exact SessionTable.all_removeWhere ..
  · have hs' : st.fresh.2.sessions.held? id = some s := hs
    have heffect := c.effect_change hc (Uuid.issued st.serial) st.clock s
    rw [act_eq f id hc, locked_of_held hs', Change.andThen]
    revert heffect
    rcases c.change (Uuid.issued st.serial) st.clock s with ⟨_ | _, s'⟩ <;> intro heffect
    · exact ⟨s', .failed hc heffect, rfl⟩
    · exact ⟨s', .followed hc heffect, rfl⟩

theorem leads_gateOn (hd : st.sessions.Distinct) (hs : st.sessions.held? id = some s)
    {task : Task σ} {connection : Connection} {recipient : Address}
    (hid : task.session? = some id) (hq : task.question? = some (connection, recipient))
    (gating : Registry.Gating σ × σ) :
    Leads f st id s task (gateOn id connection recipient gating st) := by
  unfold gateOn
  refine ⟨s, ?_, SessionTable.replaces_of_all_eq hd hs ?_⟩
  · dsimp only
    split
    · exact .decided hid hq
    · exact .panicked hid hq
    · exact .asked hid hq
  · dsimp only
    split <;> rfl

theorem leads_gated (hd : st.sessions.Distinct) (hs : st.sessions.held? id = some s)
    (connection : Connection) (recipient : Address) (answer : RecipientVerdict) :
    Leads f st id s (.gated id connection recipient answer)
      (gated id connection recipient answer st) := by
  unfold gated
  dsimp only
  by_cases hr : Reply.ofRecipient connection.allowListed answer.action answer.message = .proceed
  · rw [if_pos hr, hr, locked_of_held hs]
    unfold SessionChange.acceptRecipient SessionChange.modifyCurrent SessionChange.changeCurrent
    cases hm : s.current? with
    | none => exact ⟨s, .missed hm, rfl⟩
    | some m =>
      have hadd : Change.whole (fun m : Message => m.addRecipient recipient) m
          = (.ok (), { m with recipients := m.recipients ++ [recipient] }) := by
        rw [Change.whole, Message.addRecipient, Message.whenOpen_eq (Session.verdict_of_current? hm)]
      simp only [hadd]
      exact ⟨_, .accepted hm, rfl⟩
  · rw [if_neg hr]
    exact ⟨s, .refused hr, SessionTable.replaces_of_all_eq hd hs rfl⟩

theorem leads_judgeOn (hd : st.sessions.Distinct) (hs : st.sessions.held? id = some s)
    {task : Task σ} {config : Config} {ctx : CheckContext} {j : Judging σ} {v : Verdict Float}
    {st' : FilterState σ} (hid : task.session? = some id) (hm : task.matter? = some (config, ctx))
    (hv : task.Foresees f v) (hj : j.Settles v) (hst : st'.sessions.all = st.sessions.all) :
    Leads f st id s task (judgeOn id config ctx j st') := by
  unfold judgeOn
  cases hw : j.waitMs? with
  | some ms => exact ⟨s, .awaited hid hm hv hj, SessionTable.replaces_of_all_eq hd hs hst⟩
  | none =>
    rw [hj.verdict_eq st'.metrics st'.memory hw]
    exact ⟨s, .judged hid hm hv, SessionTable.replaces_of_all_eq hd hs hst⟩

theorem leads_judge (hd : st.sessions.Distinct) (hs : st.sessions.held? id = some s)
    (config : Config) (ctx : CheckContext) :
    Leads f st id s (.complete id config ctx) (judge f id config ctx st) := by
  exact leads_judgeOn hd hs rfl rfl ⟨st.clock, st.metrics, st.memory, rfl⟩
    (Judging.Settles.receiveWhile (Judging.settles_start _ _ _ _ _ _) _ _ _) rfl

theorem leads_ruled (hs : st.sessions.held? id = some s) {r : Ruling} (hr : r.session = id) :
    Leads f st id s (.ruled r)
      (locked r.session .eom (SessionChange.changeCurrent .eom r.conclude)
        (fun record => .next (.concluded r record)) st) := by
  rw [hr, locked_of_held hs]
  unfold SessionChange.changeCurrent
  cases hm : s.current? with
  | none => exact ⟨s, .lost hr (by simp [hm]), rfl⟩
  | some m =>
    dsimp only
    by_cases hid : m.id = r.ctx.message.id
    · obtain ⟨headers, hc, hl⟩ := Ruling.conclude_eq (Session.verdict_of_current? hm) hid
      rw [hc]
      exact ⟨_, .concluded hr hm hid hl, rfl⟩
    · rw [Ruling.conclude_other hid, Session.replaceLast_self hm]
      exact ⟨s, .lost hr (by simpa [hm] using hid), rfl⟩

theorem leads_answerFailure (hd : st.sessions.Distinct) (hs : st.sessions.held? id = some s)
    (stage : Stage) {reason : Interruption} {e : Failure} {st' : FilterState σ}
    (hr : reason = .failure e ∨ e.isFatal = false) (hst : st'.sessions = st.sessions) :
    Leads f st id s (.interrupted stage (some id) reason)
      (answerFailure stage (some id) e st') := by
  have hstay := SessionTable.replaces_of_all_eq hd hs rfl
  unfold answerFailure
  dsimp only [Option.bind_some]
  rw [hst]
  cases hf : st.sessions.find? id with
  -- a session that is held may have been removed meanwhile: then it is left as it is
  | none => exact ⟨s, .answered, hstay⟩
  | some s₀ =>
    obtain rfl : s = s₀ := by
      rw [SessionTable.held?_of_find? hd hf] at hs
      exact (Option.some.inj hs).symm
    dsimp only
    by_cases he : e.isFatal = true
    · obtain rfl : reason = .failure e := hr.resolve_right (by simp [he])
      rw [if_pos he]
      refine ⟨s.fail, .ended he, ?_⟩
      rw [SessionTable.Replaces, ← hst]
      rfl
    · rw [if_neg he]
      exact ⟨s, .answered, hstay⟩

/-- A task on a session that is held has one of the outcomes, and the table `Replaces` no
other session. -/
theorem outcome_step (f : Filter σ) {task : Task σ} (hd : st.sessions.Distinct)
    (hid : task.session? = some id) (hs : st.sessions.held? id = some s) :
    Leads f st id s task (step f st task) := by
  cases task with
  | called i c =>
    obtain rfl : i = id := Option.some.inj hid
    exact leads_act hd hs c
  | asking i connection recipient =>
    obtain rfl : i = id := Option.some.inj hid
    exact leads_gateOn hd hs rfl rfl _
  | gating i connection recipient outcome deferred rest =>
    obtain rfl : i = id := Option.some.inj hid
    exact leads_gateOn hd hs rfl rfl _
  | gated i connection recipient answer =>
    obtain rfl : i = id := Option.some.inj hid
    exact leads_gated hd hs connection recipient answer
  | complete i config ctx =>
    obtain rfl : i = id := Option.some.inj hid
    exact leads_judge hd hs config ctx
  | judging i config ctx j =>
    obtain rfl : i = id := Option.some.inj hid
    have hv := Judging.settles_finish j st.metrics st.memory
    exact leads_judgeOn hd hs rfl rfl hv (hv.receiveWhile _ _ _) rfl
  | ruled r => exact leads_ruled hs (Option.some.inj hid)
  | concluded r record =>
    exact ⟨s, .noted (Option.some.inj hid), SessionTable.replaces_of_all_eq hd hs rfl⟩
  | told r record =>
    exact ⟨s, .handed (Option.some.inj hid), SessionTable.replaces_of_all_eq hd hs rfl⟩
  | interrupted stage i reason =>
    obtain rfl : i = some id := hid
    cases reason with
    | failure e => exact leads_answerFailure hd hs stage (.inl rfl) rfl
    | panic p =>
      show Leads f st id s _ (answerInterruption stage (some id) st (.panic p))
      unfold answerInterruption
      dsimp only
      split
      · exact ⟨s, .answered, SessionTable.replaces_of_all_eq hd hs rfl⟩
      · exact leads_answerFailure hd hs stage (.inr rfl) rfl

end Filter

end MailFilter
