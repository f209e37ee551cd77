/-
What the end of a message reports.

One decision goes to many places: into the record, into the metrics, to the modules that want to be
told, into the reply, into the changes of the headers. They are filled in at different points of the
work on the message, before and after a client on the allow list has its way, and they all agree.

* `reply_eq_proceed_iff`, `reply_of_refused`: what the client is told;
* `reported_of_ruled`, `reported_of_complete`: what is reported of a verdict, and of a message;
* `eom_report`: what the end of a message reports unless it fails, and when it fails.
-/
import MailFilter.Proofs.Filter.ToEnd
import MailFilter.Proofs.Traffic.AllowList
import MailFilter.Proofs.Traffic.Delivery

namespace MailFilter

variable {σ : Type}

/-! ### The message that is judged -/

/-- A Message-Id that the filter gives a message by `idFor` names it as the mail server does, if that has
a name for it. -/
theorem Message.idFor_eq_of_named {m : Message} (h : m.queueId ≠ "") (hostname : String) :
    m.idFor hostname = "<" ++ m.queueId ++ "@" ++ hostname ++ ">" := by
  have hname : m.queueId.isEmpty = false := by
    rw [← Bool.not_eq_true, String.isEmpty_iff]
    exact h
  rw [idFor]
  simp only [hname, Bool.false_eq_true, if_false]

/-- A message that has been given a Message-Id has got it from its own name: by `idFor`. -/
theorem Callback.synthesizedId_of_touch {queueId : Option String} {hostname : String}
    {m m' : Message} (hopen : m.verdict = none) (hs : m.synthesizedId = none)
    (h : (eom queueId).touch hostname m = (.ok (), m')) {value : String}
    (hvalue : m'.synthesizedId = some value) : value = m'.idFor hostname := by
  obtain ⟨q, m₁, hensure, hcomplete⟩ := Message.completeMessage_eq hopen hostname queueId
  have hm' : m₁.2 = m' := (Prod.mk.inj (hcomplete.symm.trans h)).2
  subst hm'
  rcases Message.ensureMessageId_eq (m := { m with queueId := q }) hopen hostname with
    ⟨-, hnone⟩ | ⟨-, headers, hsome, -⟩
  · rw [hnone] at hensure
    cases hensure
    rw [show ({ m with queueId := q } : Message).synthesizedId = none from hs] at hvalue
    cases hvalue
  · rw [hsome] at hensure
    cases hensure
    exact (Option.some.inj hvalue).symm

/-! ### The answer -/

/-- A refusal says why, and then which message it is about if the mail server has a name for it: so
`withQueueId` writes it. -/
theorem Reply.withQueueId_eq (text queueId : String) : Reply.withQueueId text queueId
    = if queueId = "" then text else text ++ " (queue id " ++ queueId ++ ")" := by
  simp only [withQueueId, String.isEmpty_iff]

namespace Ruling

variable {r : Ruling}

/-- Whoever is told to go on has a permit, or nothing is enforced because of `noop`. -/
theorem reply_eq_proceed_iff :
    r.answer.reply = .proceed ↔ r.verdict.action = .permit ∨ r.config.milter.noop = true := by
  cases hn : r.config.milter.noop with
  | true => simp [answer, hn]
  | false => cases ha : r.verdict.action <;> simp [answer, hn, ha, Reply.ofVerdict]

/-- Whoever is refused is told why, `withQueueId` if the mail server has a name for the message. -/
theorem reply_of_refused (h : r.verdict.action ≠ .error) (hne : r.answer.reply ≠ .proceed) :
    (r.verdict.action = .tempfail ∧ r.answer.reply
      = .tempfail (Reply.withQueueId r.verdict.message r.ctx.message.queueId)) ∨
    (r.verdict.action = .reject ∧ r.answer.reply
      = .reject (Reply.withQueueId r.verdict.message r.ctx.message.queueId)) := by
  obtain ⟨hpermit, hnoop⟩ := not_or.1 (mt reply_eq_proceed_iff.2 hne)
  have hreply : r.answer.reply
      = Reply.ofVerdict r.verdict.action r.verdict.message r.ctx.message.queueId := by
    rw [answer, if_neg hnoop]
  rw [hreply]
  cases ha : r.verdict.action with
  | permit => exact absurd ha hpermit
  | error => exact absurd ha h
  | tempfail => exact .inl ⟨rfl, rfl⟩
  | reject => exact .inr ⟨rfl, rfl⟩

/-- The headers of a message that is refused are left alone: the `answer` then has no changes. -/
theorem proceed_of_mutations (h : r.answer.mutations ≠ []) : r.answer.reply = .proceed := by
  have hdelivers : r.delivers = true := by
    by_contra hnot
    exact h (if_neg hnot)
  rw [delivers, Bool.or_eq_true, decide_eq_true_eq] at hdelivers
  exact reply_eq_proceed_iff.2 hdelivers.symm

end Ruling

/-! ### What is reported -/

namespace Traffic

/-- What the end of a message reports, from a state `st` in which its session is `s` to a state
`st'`: of what the checkers have been given and what they have come to, and of the disposition that
counts. -/
structure Reported (f : Filter σ) (st : FilterState σ) (s : Session) (ctx : CheckContext)
    (v : Verdict Float) (action : Action) (record : MessageRecord) (answer : Answer)
    (st' : FilterState σ) : Prop where
  /-- The checkers are given the open message of the session. -/
  subject : ∃ m, s.current? = some m ∧ m.SameSubject ctx.message
  /-- The verdict is that of the checkers, by the settings of the session. -/
  judged : v = (f.registry.judge s.config ctx st.clock st.metrics (f.memoryAtJudging st)).1
  /-- A client on the allow list has a permit. -/
  counts : action = if s.isAllowListed then .permit else v.action
  noError : action ≠ .error
  /-- One record is handed to the queue, after those that have waited for longer. -/
  handed : ∃ n, st'.queue
    = ((fun q : Queue Store => q.drain Store.saving)^[n] st.queue).enqueue (.message record)
  recorded : record.id = ctx.message.id ∧ record.queueId = ctx.message.queueId ∧
    record.action = action
  /-- The verdict is counted once. -/
  counted : st'.metrics.verdicts = st.metrics.verdicts.add action.name
  /-- Every request of every result that has been collected is noted once, with its module and the
  final action, after what modules have to be told still. -/
  told : ∃ earlier, (earlier = st.followUps ∨ earlier = []) ∧
    st'.followUps = earlier ++ v.results.flatMap fun result =>
      result.followUps.map fun token => ⟨result.module, token, action⟩
  proceeds : answer.reply = .proceed ↔ action = .permit ∨ s.config.milter.noop = true
  /-- A refusal gives the reason that is in the record, and the name of the message if it has one. -/
  refuses : answer.reply ≠ .proceed → record.verdictMessage ≠ "" ∧ ∃ text,
    text = (if record.queueId = "" then record.verdictMessage
      else record.verdictMessage ++ " (queue id " ++ record.queueId ++ ")") ∧
    ((action = .tempfail ∧ answer.reply = .tempfail text) ∨
      (action = .reject ∧ answer.reply = .reject text))
  mutations : answer.mutations ≠ [] → answer.reply = .proceed
  /-- A Message-Id that the filter has given the message has the name of the record. -/
  synthesized : ∀ value, ctx.message.synthesizedId = some value → record.queueId ≠ "" →
    value = "<" ++ record.queueId ++ "@" ++ s.config.hostname ++ ">"

variable {f : Filter σ} {st : FilterState σ} {id : Uuid} {s s' : Session} {m' : Message}

/-- What is `Reported` of a verdict, once it has been recorded and the modules have been told. -/
theorem reported_of_ruled {st₁ : FilterState σ} {ctx : CheckContext} {v : Verdict Float}
    {r : Ruling} {record : MessageRecord} (hwaited : Filter.Waited st st₁) (s'' : Session)
    (hsubject : ∃ m, s.current? = some m ∧ m.SameSubject ctx.message)
    (hv : v = (f.registry.judge s.config ctx st.clock st.metrics (f.memoryAtJudging st)).1)
    (hr : r = ⟨id, s.config, ctx, v.effective s.isAllowListed⟩)
    (htells : record.Tells ctx.message r.verdict)
    (hnamed : ∀ value, ctx.message.synthesizedId = some value →
      value = ctx.message.idFor s.config.hostname) :
    Reported f st s ctx v r.verdict.action record r.answer
      (((({ st₁ with metrics := st₁.metrics.noteVerdict r.verdict.action } :
        FilterState σ).update s'').noteFollowUps
          (r.verdict.followUps r.verdict.action)).enqueue (.message record)) := by
  -- what the checkers have come to gets its final disposition here; all fields speak of that one
  have hverdict : r.verdict = v.effective s.isAllowListed := hr ▸ rfl
  have hsayable : Verdict.Sayable v.action v.message := hv ▸ Verdict.sayable_judge ..
  have heffective := hsayable.effective s.isAllowListed
  rw [← hverdict] at heffective
  constructor
  case subject => exact hsubject
  case judged => exact hv
  case counts => rw [hverdict, Verdict.action_effective]
  case noError => exact heffective.noError
  case handed =>
    obtain ⟨n, hn⟩ := hwaited.queue
    exact ⟨n, congrArg (Queue.enqueue · _) hn⟩
  case recorded => exact ⟨htells.id, htells.queueId, htells.action⟩
  case counted => exact congrArg (Tally.add · _) hwaited.verdicts
  case told =>
    have hresults : r.verdict.followUps r.verdict.action = v.followUps r.verdict.action := by
      rw [Verdict.followUps, hverdict, Verdict.results_effective, Verdict.followUps]
    exact ⟨st₁.followUps, hwaited.followUps, congrArg (st₁.followUps ++ ·) hresults⟩
  case proceeds =>
    have hconfig : r.config = s.config := hr ▸ rfl
    rw [← hconfig]
    exact Ruling.reply_eq_proceed_iff
  case refuses =>
    intro hne
    have hctx : r.ctx = ctx := hr ▸ rfl
    have hpermit : r.verdict.action ≠ .permit :=
      fun h => hne (Ruling.reply_eq_proceed_iff.2 (.inl h))
    rw [htells.message, htells.queueId, ← hctx]
    exact ⟨heffective.told hpermit, _, Reply.withQueueId_eq ..,
      Ruling.reply_of_refused heffective.noError hne⟩
  case mutations => exact Ruling.proceed_of_mutations
  case synthesized =>
    intro value hvalue hnonempty
    rw [htells.queueId] at hnonempty ⊢
    rw [hnamed value hvalue]
    exact Message.idFor_eq_of_named hnonempty _

/-- A message that is `complete` is `Reported` as its verdict says. -/
theorem reported_of_complete (f : Filter σ) (st : FilterState σ)
    (hs' : st.sessions.held? id = some s') (hm' : s'.current? = some m')
    (hconfig : s'.config = s.config) (hlisted : s'.isAllowListed = s.isAllowListed)
    (hsubject : ∃ m, s.current? = some m ∧ m.SameSubject m')
    (hnamed : ∀ value, m'.synthesizedId = some value → value = m'.idFor s.config.hostname) :
    ∃ v action record answer st', Filter.toEnd f
        (.next (.complete id s'.config ⟨s'.connection, m'⟩)) st = (.ok answer, st') ∧
      st'.metrics.callbackFailures = st.metrics.callbackFailures ∧
      Reported f st s ⟨s'.connection, m'⟩ v action record answer st' := by
  obtain ⟨v, hv⟩ : ∃ v, v = (f.registry.judge s.config ⟨s'.connection, m'⟩ st.clock st.metrics
      (f.memoryAtJudging st)).1 := ⟨_, rfl⟩
  obtain ⟨st₁, hwaited, hcomplete⟩ :=
    Filter.toEnd_complete f id s'.config ⟨s'.connection, m'⟩ st (hconfig ▸ hv)
  obtain ⟨r, hr⟩ : ∃ r : Ruling, r = ⟨id, s.config, ⟨s'.connection, m'⟩, v.effective s.isAllowListed⟩ :=
    ⟨_, rfl⟩
  have hruled : Filter.ruled id s'.config ⟨s'.connection, m'⟩ v = r := by
    rw [hr, ← hconfig, ← hlisted]
    rfl
  rw [hruled] at hcomplete
  -- nothing has touched the session while the checks were waited for
  have hheld : ({ st₁ with metrics := st₁.metrics.noteVerdict r.verdict.action } :
      FilterState σ).sessions.held? r.session = some s' := by
    rw [hr]
    exact hwaited.sessions ▸ hs'
  obtain ⟨s'', record, htells, hend⟩ := Filter.toEnd_ruled f hheld hm' (hr ▸ rfl)
  exact ⟨v, r.verdict.action, record, r.answer, _, hcomplete.trans hend, hwaited.callbackFailures,
    reported_of_ruled hwaited s'' hsubject hv hr htells hnamed⟩

/-- The end of a message that its session does not refuse is `Reported`. -/
theorem reported_of_eom (f : Filter σ) (st₀ : FilterState σ) (moves : List (Move σ))
    (hst : st = ((start st₀).run f moves).state) (hs : st.sessions.find? id = some s)
    {q : Option String} (hc : (SessionChange.eom q s).1 = .ok ()) :
    ∃ ctx v action record answer st', f.run (some id) (.eom q) st = (.ok answer, st') ∧
      st'.metrics.callbackFailures = st.metrics.callbackFailures ∧
      Reported f st s ctx v action record answer st' := by
  have hd : st.sessions.Distinct := hst ▸ (sound_run f (sound_start st₀) moves).distinct
  have hheld := SessionTable.held?_of_find? hd hs
  obtain ⟨s', m, m', hm', hconfig, hid, hlisted, hin, hm, htouch, hsubject, hrun⟩ :=
    Filter.run_eom f hd hs hc
  -- until the end of a message nobody has given it a Message-Id
  have hopened := (gathered_run f st₀ moves).opened id s m (hst ▸ hheld) hin hm
  have hheld' : (st.fresh.2.update s').sessions.held? id = some s' := by
    show (st.sessions.update s').held? id = some s'
    rw [SessionTable.held?_update, if_pos hid, hheld]
    rfl
  obtain ⟨v, action, record, answer, st', hend, hfailures, hreported⟩ :=
    reported_of_complete f _ hheld' hm' hconfig hlisted ⟨m, hm, hsubject⟩ fun value hvalue =>
      Callback.synthesizedId_of_touch (Session.verdict_of_current? hm) hopened.2.1 htouch hvalue
  exact ⟨_, v, action, record, answer, st', hrun.trans hend, hfailures, { hreported with }⟩

/-- **What the end of a message reports** unless it fails is `Reported`: everything that is filled in
says the same. It fails just if its session cannot be found or refuses it, and it is counted then. -/
theorem eom_report (f : Filter σ) (st₀ : FilterState σ) (moves : List (Move σ))
    {st st' : FilterState σ} {id : Uuid} {q : Option String} {outcome : Except Panic Answer}
    (hst : st = ((start st₀).run f moves).state)
    (hrun : f.run (some id) (.eom q) st = (outcome, st')) :
    (st'.metrics.callbackFailures = st.metrics.callbackFailures ↔
      ∃ s, st.sessions.find? id = some s ∧ (SessionChange.eom q s).1 = .ok ()) ∧
    (st'.metrics.callbackFailures = st.metrics.callbackFailures →
      ∃ s ctx v action record answer, st.sessions.find? id = some s ∧ outcome = .ok answer ∧
        Reported f st s ctx v action record answer st') := by
  have hd : st.sessions.Distinct := hst ▸ (sound_run f (sound_start st₀) moves).distinct
  have hends : ∀ s, st.sessions.find? id = some s → (SessionChange.eom q s).1 = .ok () →
      st'.metrics.callbackFailures = st.metrics.callbackFailures ∧
      ∃ ctx v action record answer, outcome = .ok answer ∧
        Reported f st s ctx v action record answer st' := by
    intro s hs hc
    obtain ⟨ctx, v, action, record, answer, st₁, hrun', hfailures, hreported⟩ :=
      reported_of_eom f st₀ moves hst hs hc
    obtain ⟨rfl, rfl⟩ := Prod.mk.inj (hrun.symm.trans hrun')
    exact ⟨hfailures, ctx, v, action, record, answer, rfl, hreported⟩
  have hiff : st'.metrics.callbackFailures = st.metrics.callbackFailures ↔
      ∃ s, st.sessions.find? id = some s ∧ (SessionChange.eom q s).1 = .ok () := by
    refine ⟨fun hsame => ?_, fun ⟨s, hs, hc⟩ => (hends s hs hc).1⟩
    by_contra hnone
    -- a failure is counted
    have hfailed := Filter.run_eom_failed f hd fun s hs hc => hnone ⟨s, hs, hc⟩
    rw [hrun, hsame] at hfailed
    have hcount := Tally.count_add st.metrics.callbackFailures Stage.eom.name Stage.eom.name
    rw [← hfailed, if_pos rfl] at hcount
    omega
  refine ⟨hiff, fun hsame => ?_⟩
  obtain ⟨s, hs, hc⟩ := hiff.1 hsame
  obtain ⟨-, ctx, v, action, record, answer, houtcome, hreported⟩ := hends s hs hc
  exact ⟨s, ctx, v, action, record, answer, hs, houtcome, hreported⟩

/-- A checker that rejects every message. -/
def severe : Filter Unit where
  registry := ⟨[{
    name := "spam"
    check := fun _ _ s =>
      ({ outcome := .opinion { CheckResult.new .reject 50.0 with message := "Spam detected" } }, s) }]⟩
  maxAgeSecs := 900

/-- A client on the allow list sends a message that the checker of `severe` rejects: a permit is counted,
and the client is told to go on. -/
theorem eom_report_listed :
    let st := ((start lenient).run severe (listedSender ++
      [.call (some (Uuid.issued 0)) (.envRcpt ["<b@example.com>"]), .go 1, .go 1, .go 1])).state
    let run := severe.run (some (Uuid.issued 0)) (.eom (some "4AbC")) st
    run.2.metrics.callbackFailures = st.metrics.callbackFailures ∧
      run.2.metrics.verdicts = st.metrics.verdicts.add "permit" ∧
      ∃ answer, run.1 = .ok answer ∧ answer.reply = .proceed := by
  intro st run
  have hfound : (st.sessions.find? (Uuid.issued 0)).map (fun s =>
      (s.isAllowListed, (SessionChange.eom (some "4AbC") s).1.toBool)) = some (true, true) := by
    decide +kernel
  obtain ⟨s, hs, hpair⟩ := Option.map_eq_some_iff.1 hfound
  have hallow : s.isAllowListed = true := congrArg Prod.fst hpair
  have hc : (SessionChange.eom (some "4AbC") s).1 = .ok () := by
    have hok := congrArg Prod.snd hpair
    cases hchange : (SessionChange.eom (some "4AbC") s).1 with
    | error e => simp [hchange, Except.toBool] at hok
    | ok u => rfl
  have hrun : severe.run (some (Uuid.issued 0)) (.eom (some "4AbC")) st = (run.1, run.2) := rfl
  obtain ⟨hiff, hreport⟩ := eom_report severe lenient _ rfl hrun
  have hsame := hiff.2 ⟨s, hs, hc⟩
  obtain ⟨s', ctx, v, action, record, answer, hs', houtcome, hreported⟩ := hreport hsame
  obtain rfl : s = s' := Option.some.inj (hs.symm.trans hs')
  have hpermit : action = .permit := by
    rw [hreported.counts, if_pos hallow]
  have hcounted : run.2.metrics.verdicts = st.metrics.verdicts.add action.name := hreported.counted
  rw [hpermit] at hcounted
  exact ⟨hsame, hcounted, answer, houtcome, hreported.proceeds.2 (.inl hpermit)⟩

end Traffic

end MailFilter
