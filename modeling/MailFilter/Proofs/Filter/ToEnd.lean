/-
A callback that is carried out to its end with nothing else in between.

`Filter.run` goes on with a callback task by task; when it has to wait, or is about to start the checks
of a message, what is left to do in the background is worked off. `Filter.toEnd` is the same from any
point of a callback, so that a run can be followed one task at a time. Only the checks of a message are
waited for an unknown number of times; `Waited` says what may have changed by then.

* `run_eq`, `toEnd_next`, `toEnd_waiting`: a run, one task at a time;
* `memory_meanwhile`: when the checks of a message are started, the modules have been told;
* `toEnd_complete`: a message that is complete comes to its verdict;
* `step_ruled`, `toEnd_ruled`: a verdict is recorded, the modules are told, and the record is handed to
  the queue;
* `toEnd_failed`: a failure is counted;
* `run_eom`, `run_eom_failed`: the end of a message, up to where its checks are started.
-/
import Mathlib.Logic.Function.Iterate
import MailFilter.Filter.Run
import MailFilter.Proofs.Filter.Outcome
import MailFilter.Proofs.Session.AllowList

namespace MailFilter

variable {σ : Type}

namespace Filter

variable {f : Filter σ} {st st₁ st₂ : FilterState σ}

/-! ### One task at a time -/

/-- Goes on with a callback until it is over: `goOn`, and `finish` if it has to wait. -/
def toEnd (f : Filter σ) (p : Progress σ) (st : FilterState σ) :
    Except Panic Answer × FilterState σ :=
  match goOn f p st with
  | (.done outcome, st) => (outcome, st)
  | (.waiting _ task, st) => finish f task st

theorem run_eq (f : Filter σ) (id : Option Uuid) (c : Callback) (st : FilterState σ) :
    f.run id c st = toEnd f (call id c st) st := rfl

theorem toEnd_done (outcome : Except Panic Answer) (st : FilterState σ) :
    toEnd f (.done outcome) st = (outcome, st) := by
  rw [toEnd, goOn]

theorem toEnd_next (task : Task σ) (st : FilterState σ) :
    toEnd f (.next task) st
      = toEnd f (step f (f.meanwhile st task) task).1 (step f (f.meanwhile st task) task).2 := by
  rw [toEnd, goOn, toEnd]

/-- Nothing goes on `meanwhile` but when checks are about to be started. -/
theorem toEnd_of_step {task : Task σ} {next : Progress σ × FilterState σ}
    (h : step f st task = next) (hm : f.meanwhile st task = st) :
    toEnd f (.next task) st = toEnd f next.1 next.2 := by
  rw [toEnd_next, hm, h]

theorem toEnd_waiting (ms : Nat) (task : Task σ) (st : FilterState σ) :
    toEnd f (.waiting ms task) st = toEnd f (.next task) (st.settle f) := by
  have hgo : goOn f (.waiting ms task) st = (.waiting ms task, st) := by rw [goOn]
  rw [toEnd, hgo]
  show finish f task st = _
  rw [finish, toEnd, resume]
  split <;> next h => rw [h]

/-! ### Waiting -/

/-- What may have changed while a callback has waited for the checks of a message: records have been
saved by `Queue.drain`, modules have been told, and checks have been measured. -/
structure Waited (st st' : FilterState σ) : Prop where
  sessions : st'.sessions = st.sessions
  queue : ∃ n, st'.queue = (fun q : Queue Store => q.drain Store.saving)^[n] st.queue
  verdicts : st'.metrics.verdicts = st.metrics.verdicts
  callbackFailures : st'.metrics.callbackFailures = st.metrics.callbackFailures
  followUps : st'.followUps = st.followUps ∨ st'.followUps = []

theorem Waited.refl (st : FilterState σ) : Waited st st :=
  ⟨rfl, ⟨0, rfl⟩, rfl, rfl, .inl rfl⟩

theorem Waited.trans (h : Waited st st₁) (h' : Waited st₁ st₂) : Waited st st₂ where
  sessions := h'.sessions.trans h.sessions
  queue := by
    obtain ⟨n, hn⟩ := h.queue
    obtain ⟨n', hn'⟩ := h'.queue
    exact ⟨n' + n, by rw [hn', hn, Function.iterate_add_apply]⟩
  verdicts := h'.verdicts.trans h.verdicts
  callbackFailures := h'.callbackFailures.trans h.callbackFailures
  followUps := by
    rcases h'.followUps with hsame | hnil
    · rw [hsame]
      exact h.followUps
    · exact .inr hnil

theorem waited_settle (f : Filter σ) (st : FilterState σ) : Waited st (st.settle f) :=
  ⟨rfl, ⟨1, rfl⟩, rfl, rfl, .inr rfl⟩

end Filter

/-- Taking in results with `receiveWhile` measures checks and counts nothing else. -/
theorem Judging.metrics_receiveWhile {α : Type} {g : Metrics → α}
    (hg : ∀ r m, g (measure r m) = g m) (p : Arrival σ → Bool) (j : Judging σ) (m : Metrics) (s : σ) :
    g (receiveWhile p j m s).2.1 = g m := by
  fun_induction receiveWhile p j m s with
  | case1 | case3 => rfl
  | case2 j m s a rest h hp next ih =>
    rw [ih]
    show g (receive a { j with pending := rest } m s).2.1 = g m
    unfold receive
    cases a.result with
    | none => rfl
    | some r =>
      dsimp only
      split <;> exact hg r m

namespace Filter

variable {f : Filter σ} {st : FilterState σ}

theorem waited_receiveUntil (ms : Nat) (j : Judging σ) (st : FilterState σ) :
    Waited st (receiveUntil ms j st).2 := by
  have hmeasure : ∀ r m, ((Judging.measure r m).verdicts, (Judging.measure r m).callbackFailures)
      = (m.verdicts, m.callbackFailures) := by
    intro r m
    unfold Judging.measure
    dsimp only
    split <;> rfl
  have hkept := Judging.metrics_receiveWhile (g := fun m => (m.verdicts, m.callbackFailures))
    hmeasure (fun a => a.atMs ≤ ms) j st.metrics st.memory
  exact ⟨rfl, ⟨0, rfl⟩, congrArg Prod.fst hkept, congrArg Prod.snd hkept, .inl rfl⟩

/-! ### Judging -/

/-- What judging has come to when there is nothing left to wait for: the ruling on the verdict `v`. -/
def ruled (id : Uuid) (config : Config) (ctx : CheckContext) (v : Verdict Float) : Ruling :=
  { session := id, config, ctx, verdict := v.effective ctx.connection.allowListed }

/-- When there is nothing left to wait for, `judgeOn` has come to the verdict on which
judging settles. -/
theorem judgeOn_of_settled {id : Uuid} {config : Config} {ctx : CheckContext} {j : Judging σ}
    {v : Verdict Float} (hj : j.Settles v) (hw : j.waitMs? = none) (st : FilterState σ) :
    judgeOn id config ctx j st = (.next (.ruled (ruled id config ctx v)),
      { st with metrics := st.metrics.noteVerdict (ruled id config ctx v).verdict.action }) := by
  rw [judgeOn, hw, ← hj.verdict_eq st.metrics st.memory hw]
  rfl

/-- A message that is being judged comes to its verdict, the `ruled` one, which is counted. -/
theorem toEnd_judgeOn (f : Filter σ) (id : Uuid) (config : Config) (ctx : CheckContext)
    {j : Judging σ} {v : Verdict Float} (hj : j.Settles v) (st : FilterState σ) :
    ∃ st', Waited st st' ∧
      toEnd f (judgeOn id config ctx j st).1 (judgeOn id config ctx j st).2
        = toEnd f (.next (.ruled (ruled id config ctx v)))
          { st' with
            metrics := st'.metrics.noteVerdict (v.effective ctx.connection.allowListed).action } := by
  induction hn : j.pending.length using Nat.strongRecOn generalizing j st with
  | ind n ih =>
    cases hw : j.waitMs? with
    | none =>
      rw [judgeOn_of_settled hj hw]
      exact ⟨st, .refl st, rfl⟩
    | some ms =>
      rw [judgeOn, hw]
      dsimp only
      obtain ⟨a, rest, hpending⟩ : ∃ a rest, j.pending = a :: rest := by
        cases hpending : j.pending with
        | nil => simp [Judging.waitMs?, hpending] at hw
        | cons a rest => exact ⟨a, rest, rfl⟩
      -- the next arrival is taken in, and fewer are left
      have hlt : (receiveUntil a.atMs j (st.settle f)).1.pending.length < n :=
        hn ▸ Judging.length_pending_receiveWhile_lt hpending (by simp)
      obtain ⟨st', hwaited, heq⟩ := ih _ hlt
        (hj.receiveWhile _ (st.settle f).metrics (st.settle f).memory)
        (receiveUntil a.atMs j (st.settle f)).2 rfl
      refine ⟨st', ((waited_settle f st).trans (waited_receiveUntil ..)).trans hwaited, ?_⟩
      rw [toEnd_waiting, toEnd_next, ← heq]
      show toEnd f (judgeOn id config ctx _ _).1 (judgeOn id config ctx _ _).2 = _
      rw [hpending]
      rfl

/-- The checks of a message that is complete, when `Judging.start` has just started them. -/
def judgingAt (f : Filter σ) (st : FilterState σ) (config : Config) (ctx : CheckContext) :
    Judging σ :=
  (Judging.start f.registry config ctx st.clock st.memory).1

/-- What the checkers come to on a message that is complete, by `Registry.judge`. -/
def verdictAt (f : Filter σ) (st : FilterState σ) (config : Config) (ctx : CheckContext) :
    Verdict Float :=
  (f.registry.judge config ctx st.clock st.metrics st.memory).1

theorem settles_judgingAt (f : Filter σ) (st : FilterState σ) (config : Config)
    (ctx : CheckContext) : (f.judgingAt st config ctx).Settles (f.verdictAt st config ctx) :=
  Judging.settles_start _ _ _ _ st.metrics _

/-- The state in which the checks of a message have just been started; `judgingAt` is how they stand. -/
def startedAt (f : Filter σ) (st : FilterState σ) (config : Config) (ctx : CheckContext) :
    FilterState σ :=
  { st with memory := (Judging.start f.registry config ctx st.clock st.memory).2 }

theorem judge_eq (f : Filter σ) (id : Uuid) (config : Config) (ctx : CheckContext)
    (st : FilterState σ) : judge f id config ctx st
      = judgeOn id config ctx
        (receiveUntil 0 (f.judgingAt st config ctx) (f.startedAt st config ctx)).1
        (receiveUntil 0 (f.judgingAt st config ctx) (f.startedAt st config ctx)).2 := rfl

theorem waited_startedAt (f : Filter σ) (st : FilterState σ) (config : Config) (ctx : CheckContext) :
    Waited st (f.startedAt st config ctx) :=
  ⟨rfl, ⟨0, rfl⟩, rfl, rfl, .inl rfl⟩

/-! ### A message that is left to itself -/

/-- What the checkers remember when a message is given to them that has been left to itself: if there are
any, `settle` has told them by then what they want to be told. -/
def memoryAtJudging (f : Filter σ) (st : FilterState σ) : σ :=
  if f.registry.enabled.isEmpty then st.memory else (st.settle f).memory

theorem memory_meanwhile (f : Filter σ) (st : FilterState σ) (id : Uuid) (config : Config)
    (ctx : CheckContext) :
    (f.meanwhile st (.complete id config ctx)).memory = f.memoryAtJudging st := by
  rw [meanwhile, memoryAtJudging]
  split <;> rfl

theorem waited_meanwhile (f : Filter σ) (st : FilterState σ) (task : Task σ) :
    Waited st (f.meanwhile st task) := by
  unfold meanwhile
  split
  · split
    · exact .refl st
    · exact waited_settle f st
  · exact .refl st

/-- In the `meanwhile` no time goes by, and nothing is measured. -/
theorem verdictAt_meanwhile (f : Filter σ) (st : FilterState σ) (id : Uuid) (config : Config)
    (ctx : CheckContext) : f.verdictAt (f.meanwhile st (.complete id config ctx)) config ctx
      = (f.registry.judge config ctx st.clock st.metrics (f.memoryAtJudging st)).1 := by
  rw [verdictAt, memory_meanwhile, meanwhile]
  split <;> rfl

/-- A message that is complete comes to its verdict: `verdictAt`, on what the checkers
remember by then. -/
theorem toEnd_complete (f : Filter σ) (id : Uuid) (config : Config) (ctx : CheckContext)
    (st : FilterState σ) {v : Verdict Float}
    (hv : v = (f.registry.judge config ctx st.clock st.metrics (f.memoryAtJudging st)).1) :
    ∃ st', Waited st st' ∧
      toEnd f (.next (.complete id config ctx)) st
        = toEnd f (.next (.ruled (ruled id config ctx v)))
          { st' with metrics := st'.metrics.noteVerdict (ruled id config ctx v).verdict.action } := by
  have hmeanwhile := waited_meanwhile f st (.complete id config ctx)
  rw [← verdictAt_meanwhile f st id config ctx] at hv
  rw [toEnd_next]
  generalize f.meanwhile st (.complete id config ctx) = st₁ at hmeanwhile hv
  have hsettles : (f.judgingAt st₁ config ctx).Settles v := hv ▸ settles_judgingAt f st₁ config ctx
  obtain ⟨st', hwaited, heq⟩ := toEnd_judgeOn f id config ctx
    (hsettles.receiveWhile (fun a => a.atMs ≤ 0) (f.startedAt st₁ config ctx).metrics
      (f.startedAt st₁ config ctx).memory)
    (receiveUntil 0 (f.judgingAt st₁ config ctx) (f.startedAt st₁ config ctx)).2
  have hstarted : Waited st₁
      (receiveUntil 0 (f.judgingAt st₁ config ctx) (f.startedAt st₁ config ctx)).2 :=
    (waited_startedAt f st₁ config ctx).trans (waited_receiveUntil ..)
  exact ⟨st', (hmeanwhile.trans hstarted).trans hwaited, heq⟩

end Filter

/-! ### After the verdict -/

/-- The record says that `v` has been decided for the message `m`. -/
structure MessageRecord.Tells (record : MessageRecord) (m : Message) (v : Verdict Float) : Prop where
  id : record.id = m.id
  queueId : record.queueId = m.queueId
  action : record.action = v.action
  message : record.verdictMessage = v.message

namespace Filter

variable {f : Filter σ} {st : FilterState σ}

/-- A verdict on the open message is recorded, in a record that `Tells` of it. -/
theorem step_ruled (f : Filter σ) {r : Ruling} {s : Session} {m : Message}
    (hs : st.sessions.held? r.session = some s) (hm : s.current? = some m)
    (hid : m.id = r.ctx.message.id) :
    ∃ s' record, record.Tells m r.verdict ∧
      step f st (.ruled r) = (.next (.concluded r record), st.update s') := by
  obtain ⟨headers, hconclude, -⟩ := Ruling.conclude_eq (Session.verdict_of_current? hm) hid
  generalize hm' : ({ m with headers, verdict := some r.verdict } : Message) = m' at hconclude
  have htells : m'.toRecord.Tells m r.verdict := hm' ▸ ⟨rfl, rfl, rfl, rfl⟩
  refine ⟨s.replaceLast m', m'.toRecord, htells, ?_⟩
  rw [step, locked_of_held hs, SessionChange.changeCurrent, hm]
  simp only [hconclude]

/-- Then the modules are told of it by `noteFollowUps`, and the record is handed to the queue. -/
theorem toEnd_ruled (f : Filter σ) {r : Ruling} {s : Session} {m : Message}
    (hs : st.sessions.held? r.session = some s) (hm : s.current? = some m)
    (hid : m.id = r.ctx.message.id) :
    ∃ s' record, record.Tells m r.verdict ∧ toEnd f (.next (.ruled r)) st = (.ok r.answer,
      ((st.update s').noteFollowUps (r.verdict.followUps r.verdict.action)).enqueue
        (.message record)) := by
  obtain ⟨s', record, htells, hstep⟩ := step_ruled f hs hm hid
  refine ⟨s', record, htells, ?_⟩
  have hconcluded : toEnd f (.next (.concluded r record)) (st.update s') = _ := toEnd_of_step rfl rfl
  have htold : toEnd f (.next (.told r record))
      ((st.update s').noteFollowUps (r.verdict.followUps r.verdict.action)) = _ :=
    toEnd_of_step rfl rfl
  rw [toEnd_of_step hstep rfl]
  exact (hconcluded.trans htold).trans (toEnd_done ..)

/-- A failure is counted among the `callbackFailures`, under its stage. -/
theorem toEnd_failed (f : Filter σ) (stage : Stage) (id : Option Uuid) (e : Failure)
    (st : FilterState σ) :
    (toEnd f (.failed stage id e) st).2.metrics.callbackFailures
      = st.metrics.callbackFailures.add stage.name := by
  have hanswer : step f st (.interrupted stage id (.failure e)) = answerFailure stage id e st := rfl
  rw [Progress.failed, toEnd_of_step hanswer rfl]
  unfold answerFailure
  dsimp only
  split
  · split <;> (rw [Progress.replied, toEnd_done]; rfl)
  · rw [Progress.replied, toEnd_done]
    rfl

/-! ### The end of a message -/

variable {id : Uuid} {s : Session}

theorem follow_eom {m : Message} (h : s.current? = some m) (q : Option String) :
    (follow s (.eom q) : Progress σ) = .next (.complete s.id s.config ⟨s.connection, m⟩) := by
  simp only [follow, h]

/-- The end of a message changes its session by `SessionChange.eom`, and goes on from there or has
failed. -/
theorem step_eom (f : Filter σ) (hs : st.sessions.held? s.id = some s) (q : Option String) :
    step f st (.called s.id (.eom q)) =
      (match (SessionChange.eom q s).1 with
        | .ok () => follow (SessionChange.eom q s).2 (.eom q)
        | .error e => .failed .eom (some s.id) e,
        st.fresh.2.update (SessionChange.eom q s).2) := by
  have hs' : st.fresh.2.sessions.held? s.id = some s := hs
  show locked s.id .eom ((SessionChange.eom q).andThen (Change.look fun s => s))
    (fun s => follow s (.eom q)) st.fresh.2 = _
  rw [locked_of_held hs', Change.andThen]
  rcases SessionChange.eom q s with ⟨_ | _, s'⟩ <;> rfl

/-- The end of a message, up to where its checks are started: `complete` has what is in the session by
then. -/
theorem run_eom (f : Filter σ) (hd : st.sessions.Distinct) (hs : st.sessions.find? id = some s)
    {q : Option String} (hc : (SessionChange.eom q s).1 = .ok ()) :
    ∃ s' m m', s'.current? = some m' ∧ s'.config = s.config ∧ s'.id = id ∧
      s'.isAllowListed = s.isAllowListed ∧ s.position.inMessage = true ∧ s.current? = some m ∧
      (Callback.eom q).touch s.config.hostname m = (.ok (), m') ∧ m.SameSubject m' ∧
      f.run (some id) (.eom q) st
        = toEnd f (.next (.complete id s'.config ⟨s'.connection, m'⟩)) (st.fresh.2.update s') := by
  have hheld := SessionTable.held?_of_find? hd hs
  obtain rfl := SessionTable.id_of_held? hheld
  obtain ⟨s', hchange⟩ : ∃ s', SessionChange.eom q s = (.ok (), s') := ⟨_, Prod.ext hc rfl⟩
  have hcall : call (some s.id) (.eom q) st = .next (.called s.id (.eom q)) := by
    unfold call
    rw [Option.bind_some, hs]
  have hstep := step_eom f hheld q
  rw [hchange] at hstep
  have hkeeps := (Callback.eom q).keeps_change (Uuid.issued st.serial) st.clock s
  have heffect := (Callback.eom q).effect_change (by simp) (Uuid.issued st.serial) st.clock s
  rw [show (Callback.eom q).change (Uuid.issued st.serial) st.clock = SessionChange.eom q from rfl,
    hchange] at hkeeps heffect
  rw [run_eq, hcall, toEnd_of_step hstep rfl]
  cases heffect with
  | greeted hstage _ | begun hstage _ => cases hstage
  | abandoned habort => cases habort
  | @touched position connection m m' ht hp hm htouch hsubject =>
    have hopen := hsubject.verdict.trans (Session.verdict_of_current? hm)
    have hcurrent := Session.current?_replaceLast { s with position, connection } hopen
    refine ⟨_, m, m', hcurrent, rfl, rfl, congrArg Prod.snd hkeeps,
      (Position.inMessage_of_next hp (Callback.stage_of_touches ht)).1, hm, htouch, hsubject, ?_⟩
    exact congrArg (fun p => toEnd f p _) (follow_eom hcurrent q)

/-- The end of a message fails if its session cannot be found, or if `SessionChange.eom` refuses it. -/
theorem run_eom_failed (f : Filter σ) (hd : st.sessions.Distinct) {q : Option String}
    (h : ∀ s, st.sessions.find? id = some s → (SessionChange.eom q s).1 ≠ .ok ()) :
    (f.run (some id) (.eom q) st).2.metrics.callbackFailures
      = st.metrics.callbackFailures.add Stage.eom.name := by
  rw [run_eq]
  unfold call
  rw [Option.bind_some]
  cases hs : st.sessions.find? id with
  | none => exact toEnd_failed ..
  | some s =>
    have hheld := SessionTable.held?_of_find? hd hs
    obtain rfl := SessionTable.id_of_held? hheld
    have hrefused := h s hs
    have hstep := step_eom f hheld q
    rcases hchange : SessionChange.eom q s with ⟨e | _, s'⟩
    · rw [hchange] at hstep
      show (toEnd f (.next (.called s.id (.eom q))) st).2.metrics.callbackFailures = _
      rw [toEnd_of_step hstep rfl]
      exact toEnd_failed ..
    · rw [hchange] at hrefused
      exact absurd rfl hrefused

end Filter

end MailFilter
