/-
Which messages are counted against the quotas of their senders.

A message that has passed the check of the quotas is counted when the quotas are told that it has
finally been permitted. They are told once about each message, if their result has been collected: a
result that comes after collection has stopped has no say, and nobody is told about it. So a message
that is permitted although, or because, collection has stopped before is not counted. Nor is one that
cannot be, as the clock has been set back to where the calendar does not reach back a window.

* `Runs`: all that may happen to a filter with quotas, with the history of its counters;
* `Runs.settle`: the modules may be told everything at once;
* `balanced_runs`: what has been recorded and what is still due, against the messages that have passed;
* `counted_once`: each permitted message is counted once, as far as the result of the quotas has been
  collected;
* `uncounted_permit`: a message that passes, is permitted and is not counted.
-/
import MailFilter.Proofs.Checker.Installed
import MailFilter.Proofs.Traffic.Judged

namespace MailFilter

variable {σ : Type}

namespace Quota

/-! ### What is due for a message -/

/-- The quotas are told about the message of the ruling `r`. -/
def isTold (r : Ruling) : Bool :=
  (r.verdict.followUps r.verdict.action).any fun u => u.module = "quotas"

/-- The sender against whose quota the message of `r` is counted, if it is permitted and the quotas are
told. -/
def charge? (r : Ruling) : Option String :=
  if r.verdict.action = .permit ∧ isTold r then some (senderKey r.ctx.message.sender) else none

/-- The message of the ruling `r` has passed, in the state in which it was complete, and the result of
the quotas has been `Collected`. -/
def Passes (settings : QuotaSettings) (l : Focus σ Counters) (f : Filter σ) (st : FilterState σ)
    (r : Ruling) : Prop :=
  Admits settings (l.get st.memory) r.ctx.message.sender st.clock ∧
    Collected f st r.config r.ctx

section

variable {settings : QuotaSettings} {l : Focus σ Counters} {f : Filter σ} {st : FilterState σ}
  {r : Ruling}

/-- The quotas are told about the messages of rulings that pass, by `Passes`, under the names of their
senders. -/
theorem requests_ruling (h : Installed settings l f)
    (hv : r.verdict = (f.verdictAt st r.config r.ctx).effective r.ctx.connection.allowListed) :
    (Passes settings l f st r ∧
      (r.verdict.followUps r.verdict.action).filter (fun u => u.module = "quotas")
        = [⟨"quotas", senderKey r.ctx.message.sender, r.verdict.action⟩]) ∨
    (¬ Passes settings l f st r ∧
      (r.verdict.followUps r.verdict.action).filter (fun u => u.module = "quotas") = []) := by
  have hsame : r.verdict.followUps r.verdict.action
      = (f.verdictAt st r.config r.ctx).followUps r.verdict.action := by
    rw [Verdict.followUps, Verdict.followUps, hv, Verdict.results_effective]
  rw [hsame]
  rcases requests_judge h st r.config r.ctx r.verdict.action with ⟨hadmits, hcollected, heq⟩ | hnot
  · exact .inl ⟨⟨hadmits, hcollected⟩, heq⟩
  · exact .inr hnot

theorem isTold_eq (r : Ruling) : isTold r
    = !((r.verdict.followUps r.verdict.action).filter fun u => u.module = "quotas").isEmpty := by
  rw [isTold]
  induction r.verdict.followUps r.verdict.action with
  | nil => rfl
  | cons u rest ih => by_cases hu : u.module = "quotas" <;> simp [hu, ih]

theorem isTold_iff (h : Installed settings l f)
    (hv : r.verdict = (f.verdictAt st r.config r.ctx).effective r.ctx.connection.allowListed) :
    isTold r = true ↔ Passes settings l f st r := by
  rw [isTold_eq]
  rcases requests_ruling h hv with ⟨hpasses, heq⟩ | ⟨hnot, heq⟩
  · simp [heq, hpasses]
  · simp [heq, hnot]

/-- What is noted after a verdict is due for the message, as `charge?` has it, and nothing else is. -/
theorem filterMap_due (h : Installed settings l f)
    (hv : r.verdict = (f.verdictAt st r.config r.ctx).effective r.ctx.connection.allowListed) :
    (r.verdict.followUps r.verdict.action).filterMap due? = (charge? r).toList := by
  have hfilter : (r.verdict.followUps r.verdict.action).filterMap due?
      = ((r.verdict.followUps r.verdict.action).filter fun u => u.module = "quotas").filterMap
        due? := by
    rw [List.filterMap_filter]
    congr 1
    funext u
    by_cases hu : u.module = "quotas" <;> simp [due?, hu]
  rcases requests_ruling h hv with ⟨-, heq⟩ | ⟨-, heq⟩
  · rw [hfilter, charge?, isTold_eq, heq]
    by_cases haction : r.verdict.action = .permit <;> simp [due?, haction]
  · rw [hfilter, charge?, isTold_eq, heq]
    simp

/-- An event is due only if the calendar has reached back a window before: if it `Fits`. -/
theorem fits_of_due (h : Installed settings l f)
    (hv : r.verdict = (f.verdictAt st r.config r.ctx).effective r.ctx.connection.allowListed)
    {u : FollowUp} (hu : u ∈ r.verdict.followUps r.verdict.action) (hdue : (due? u).isSome) :
    Fits settings st.clock := by
  have hmodule : u.module = "quotas" := by
    unfold due? at hdue
    split at hdue
    · next hboth => exact hboth.1
    · cases hdue
  have hmem : u ∈ (r.verdict.followUps r.verdict.action).filter fun u => u.module = "quotas" :=
    List.mem_filter.2 ⟨hu, decide_eq_true hmodule⟩
  rcases requests_ruling h hv with ⟨hpasses, -⟩ | ⟨-, heq⟩
  · exact fits_of_admits hpasses.1
  · rw [heq] at hmem
    cases hmem

end

/-! ### Runs -/

/-- What may happen to a filter `f` with quotas that has been started in the state `st`, with all that
has happened to the counters. A module may be told at any time, whatever callbacks do meanwhile: what is
still to be told may outlast the next message and its checks. -/
inductive Runs (settings : QuotaSettings) (l : Focus σ Counters) (f : Filter σ)
    (st : FilterState σ) : Traffic σ → List Entry → Prop where
  | start (hst : st.followUps = []) : Runs settings l f st (Traffic.start st) []
  /-- A callback is taken or goes on, or sessions come and go. -/
  | move {T : Traffic σ} {history : List Entry} (m : Traffic.Move σ)
      (hm : ∀ after, m ≠ .elsewhere after) (h : Runs settings l f st T history) :
      Runs settings l f st (T.move f m) history
  /-- One of the modules is told. -/
  | tell {T : Traffic σ} {history : List Entry} {i : Nat} {u : FollowUp}
      (hu : T.state.followUps[i]? = some u) (h : Runs settings l f st T history) :
      Runs settings l f st
        (T.move f (.elsewhere { T.state with
          memory := f.registry.tell T.state.clock T.state.memory u
          followUps := T.state.followUps.eraseIdx i }))
        (history ++ entries settings T.state.clock u)
  /-- The counters are reset from outside. -/
  | reset {T : Traffic σ} {history : List Entry} (target : Option String)
      (h : Runs settings l f st T history) :
      Runs settings l f st
        (T.move f (.elsewhere { T.state with
          memory := l.modify (fun c => c.reset target) T.state.memory }))
        (history ++ [.reset target])
  /-- Anything else goes on: time goes by, settings are replaced, records are saved, other checkers are
  at work. -/
  | aside {T : Traffic σ} {history : List Entry} (after : FilterState σ)
      (hpart : l.get after.memory = l.get T.state.memory)
      (hfollowUps : after.followUps = T.state.followUps) (h : Runs settings l f st T history) :
      Runs settings l f st (T.move f (.elsewhere after)) history

section

variable {settings : QuotaSettings} {l : Focus σ Counters} {f : Filter σ} {st : FilterState σ}
  {T T' : Traffic σ} {history : List Entry}

/-- What `Runs` is traffic. -/
theorem Runs.exists_moves (h : Runs settings l f st T history) :
    ∃ moves, T = (Traffic.start st).run f moves := by
  have hconcat : ∀ {T : Traffic σ} (m : Traffic.Move σ),
      (∃ moves, T = (Traffic.start st).run f moves) →
      ∃ moves, T.move f m = (Traffic.start st).run f moves := by
    rintro T m ⟨moves, rfl⟩
    exact ⟨moves ++ [m], (Traffic.run_append f _ moves [m]).symm⟩
  induction h with
  | start hst => exact ⟨[], rfl⟩
  | move m _ _ ih => exact hconcat m ih
  | tell _ _ ih | reset _ _ ih | aside _ _ _ _ ih => exact hconcat _ ih

/-- The modules may be told one after the other all that they have to be told, as `tellAll` does it. -/
theorem Runs.tellAll (h : Runs settings l f st T history) :
    Runs settings l f st (T.move f (.elsewhere (T.state.tellAll f)))
      (history ++ T.state.followUps.flatMap (entries settings T.state.clock)) := by
  induction hus : T.state.followUps generalizing T history with
  | nil =>
    rw [List.flatMap_nil, List.append_nil]
    refine h.aside _ ?_ hus.symm
    rw [FilterState.tellAll, hus]
    rfl
  | cons u us ih =>
    have htell := h.tell (i := 0) (u := u) (by rw [hus]; rfl)
    have hus' : T.state.followUps.eraseIdx 0 = us := by rw [hus]; rfl
    have hrest := ih htell hus'
    rw [List.flatMap_cons, ← List.append_assoc]
    have hsame : (T.move f (.elsewhere { T.state with
        memory := f.registry.tell T.state.clock T.state.memory u
        followUps := T.state.followUps.eraseIdx 0 })).state.tellAll f = T.state.tellAll f := by
      show ({ T.state with followUps := [], memory := _ } : FilterState σ) = _
      rw [FilterState.tellAll, hus]
      rfl
    rw [hsame] at hrest
    exact hrest

/-- What is left to do may be worked off all at once by `settle`, as it is when callbacks are left to
themselves. -/
theorem Runs.settle (h : Runs settings l f st T history) :
    Runs settings l f st (T.move f (.elsewhere (T.state.settle f)))
      (history ++ T.state.followUps.flatMap (entries settings T.state.clock)) := by
  have hsettled := (h.tellAll (f := f)).aside (T.state.settle f) rfl rfl
  exact hsettled

/-- An event is `missed` only if the clock has been set back since the message was checked, to a time
from which the calendar does not reach back a window. -/
def Missed (settings : QuotaSettings) (T : Traffic σ) (history : List Entry) : Prop :=
  ∀ key now, Entry.missed key now ∈ history → ¬ Fits settings now ∧
    ∃ c ∈ T.told, charge? c.1 = some key ∧
      ∃ e ∈ T.log, e.task = .complete c.1.session c.1.config c.1.ctx ∧
        now.nanos < e.before.clock.nanos

theorem Missed.mono (h : Missed settings T history) (htold : T.told ⊆ T'.told)
    (hlog : T.log ⊆ T'.log) : Missed settings T' history := by
  intro key now hmissed
  obtain ⟨hfits, c, hc, hkey, e, he, hevent⟩ := h key now hmissed
  exact ⟨hfits, c, htold hc, hkey, e, hlog he, hevent⟩

/-- The books of the quotas: what the `history` has recorded and what is still due is what is owed for
the messages that the modules have been told about. -/
structure Balanced (settings : QuotaSettings) (l : Focus σ Counters) (st : FilterState σ)
    (T : Traffic σ) (history : List Entry) : Prop where
  counters : l.get T.state.memory = history.foldl (Entry.apply settings) (l.get st.memory)
  noted : ∀ u ∈ T.state.followUps,
    ∃ c ∈ T.told, u ∈ c.1.verdict.followUps c.1.verdict.action
  missed : Missed settings T history
  exactly : (history.filterMap Entry.key? ++ T.state.followUps.filterMap due?).Perm
    (T.told.filterMap fun c => charge? c.1)

/-- Whatever is due and is `Missed` has fitted when its message was checked. -/
theorem Balanced.missed_of_due (h : Balanced settings l st T history) (hf : Installed settings l f)
    (hT : T.Attested f) {u : FollowUp} (hu : u ∈ T.state.followUps) :
    Missed settings T (entries settings T.state.clock u) := by
  intro key now hmissed
  obtain ⟨hdue, rfl, hfits⟩ := due_of_missed hmissed
  obtain ⟨c, hc, hmem⟩ := h.noted u hu
  obtain ⟨e, he, htask, hv⟩ := hT.told c hc
  refine ⟨hfits, c, hc, ?_, e, he, htask, ?_⟩
  · have hkey : key ∈ (charge? c.1).toList :=
      filterMap_due hf hv ▸ List.mem_filterMap.2 ⟨u, hmem, hdue⟩
    simpa using hkey
  · exact lt_of_fits hfits (fits_of_due hf hv hmem (Option.isSome_of_mem hdue))

/-- One of the modules is told, and the books stay `Balanced` by its `entries`. -/
theorem Balanced.tell (h : Balanced settings l st T history) (hf : Installed settings l f)
    (hT : T.Attested f) {i : Nat} {u : FollowUp} (hu : T.state.followUps[i]? = some u)
    (hpart : l.get T'.state.memory = (entries settings T.state.clock u).foldl
      (Entry.apply settings) (l.get T.state.memory))
    (hfollowUps : T'.state.followUps = T.state.followUps.eraseIdx i) (htold : T'.told = T.told)
    (hlog : T.log ⊆ T'.log) :
    Balanced settings l st T' (history ++ entries settings T.state.clock u) where
  counters := by rw [hpart, h.counters, List.foldl_append]
  noted := by
    intro u' hu'
    rw [hfollowUps] at hu'
    rw [htold]
    exact h.noted u' (List.mem_of_mem_eraseIdx hu')
  missed := by
    refine Missed.mono (fun key now hmissed => ?_) (htold ▸ List.Subset.refl _) hlog
    rcases List.mem_append.1 hmissed with hold | hnew
    · exact h.missed key now hold
    · exact h.missed_of_due hf hT (List.mem_of_getElem? hu) key now hnew
  exactly := by
    obtain ⟨hlt, rfl⟩ := List.getElem?_eq_some_iff.1 hu
    have hperm : ((entries settings T.state.clock T.state.followUps[i]).filterMap Entry.key?
        ++ (T.state.followUps.eraseIdx i).filterMap due?).Perm
          (T.state.followUps.filterMap due?) := by
      have hone := (List.getElem_cons_eraseIdx_perm hlt).filterMap due?
      rw [List.filterMap_cons] at hone
      rw [keys_entries]
      cases hdue : due? T.state.followUps[i] <;> simpa [hdue] using hone
    rw [List.filterMap_append, hfollowUps, htold, List.append_assoc]
    exact (hperm.append_left _).trans h.exactly

/-- What the results of a verdict ask for is noted, and the books stay `Balanced`. -/
theorem Balanced.note (h : Balanced settings l st T history) (hf : Installed settings l f)
    {log : List (Traffic.Event σ)} {r : Ruling} {record : MessageRecord} (hr : r.IsJudged f log)
    (hpart : l.get T'.state.memory = l.get T.state.memory)
    (hfollowUps : T'.state.followUps
      = T.state.followUps ++ r.verdict.followUps r.verdict.action)
    (htold : T'.told = T.told ++ [(r, record)]) (hlog : T.log ⊆ T'.log) :
    Balanced settings l st T' history where
  counters := hpart.trans h.counters
  missed := h.missed.mono (htold ▸ List.subset_append_left ..) hlog
  noted := by
    intro u hu
    rw [hfollowUps] at hu
    rw [htold]
    rcases List.mem_append.1 hu with hu | hu
    · obtain ⟨c, hc, hmem⟩ := h.noted u hu
      exact ⟨c, List.mem_append_left _ hc, hmem⟩
    · exact ⟨(r, record), List.mem_append_right _ (List.mem_singleton.2 rfl), hu⟩
  exactly := by
    have hone : [(r, record)].filterMap (fun c => charge? c.1) = (charge? r).toList := by
      cases hc : charge? r <;> simp [hc]
    obtain ⟨e, -, -, hv⟩ := hr
    rw [hfollowUps, htold, List.filterMap_append, List.filterMap_append, filterMap_due hf hv, hone,
      ← List.append_assoc]
    exact h.exactly.append_right _

/-- Whatever tells nobody and notes nothing leaves the books `Balanced`. -/
theorem Balanced.still (h : Balanced settings l st T history)
    (hpart : l.get T'.state.memory = l.get T.state.memory)
    (hfollowUps : T'.state.followUps = T.state.followUps) (htold : T'.told = T.told)
    (hlog : T.log ⊆ T'.log) : Balanced settings l st T' history where
  counters := hpart.trans h.counters
  noted := by
    rw [hfollowUps, htold]
    exact h.noted
  missed := h.missed.mono (htold ▸ List.Subset.refl _) hlog
  exactly := by
    rw [hfollowUps, htold]
    exact h.exactly

/-- A callback carries out a task, and the books stay `Balanced`. -/
theorem balanced_go (h : Balanced settings l st T history) (hf : Installed settings l f)
    (hT : T.Attested f) {i : Nat} {thread : Traffic.Thread σ} {task : Task σ}
    (hi : T.threads[i]? = some thread) (ht : thread.progress.task? = some task) :
    Balanced settings l st (T.move f (.go i)) history := by
  have hmem := List.mem_of_getElem? hi
  have hheeds := hT.heeds thread hmem task ht
  have hbooks : (task.books T.state).SameBooks l (f.step T.state task).2 := by
    refine Filter.sameBooks_step hf.observes_enabled (fun c hc => ?_) ?_ T.state
    · exact hT.unasked thread hmem c (by rwa [Progress.unasked, ht])
    · rintro id config ctx j rfl
      exact hheeds.1
  have hgo : T.move f (.go i) = T.extend ⟨i, task, T.state, (f.step T.state task).1,
      (f.step T.state task).2⟩
      (T.threads.set i { thread with progress := (f.step T.state task).1 }) :=
    Traffic.go_of_task hi ht
  have hlog : T.log ⊆ (T.move f (.go i)).log := by
    rw [hgo]
    exact List.subset_append_left ..
  have htold : (T.move f (.go i)).told = T.told ++ task.told?.toList := by
    rw [hgo, Traffic.told_extend]
  have hstate : (T.move f (.go i)).state = (f.step T.state task).2 := by rw [hgo]
  rw [← hstate] at hbooks
  have hstill : task.books T.state = T.state → task.told? = none →
      Balanced settings l st (T.move f (.go i)) history := by
    intro hsame hnone
    rw [hsame] at hbooks
    exact h.still hbooks.part hbooks.followUps (by simp [htold, hnone]) hlog
  cases task with
  | concluded r record => exact h.note hf hheeds hbooks.part hbooks.followUps htold hlog
  | _ => exact hstill rfl rfl

/-- Every move of the traffic keeps the books `Balanced`. -/
theorem balanced_move (h : Balanced settings l st T history) (hf : Installed settings l f)
    (hT : T.Attested f) (m : Traffic.Move σ) (hm : ∀ after, m ≠ .elsewhere after) :
    Balanced settings l st (T.move f m) history := by
  -- all but the tasks of callbacks leave the books alone
  have hstill : T.state.SameBooks l (T.move f m).state → (T.move f m).log = T.log →
      Balanced settings l st (T.move f m) history := by
    intro hbooks hlog
    refine h.still hbooks.part hbooks.followUps ?_ (hlog ▸ List.Subset.refl _)
    rw [Traffic.told, hlog, Traffic.told]
  cases m with
  | go i =>
    rcases T.go_over_or_task i with hover | ⟨thread, task, hi, ht⟩
    · have hstay : T.move f (.go i) = T := Traffic.go_of_over hover
      exact hstill (hstay.symm ▸ .refl l T.state) (congrArg Traffic.log hstay)
    · exact balanced_go h hf hT hi ht
  | connect ip port reverseDns => exact hstill ⟨rfl, rfl, rfl⟩ rfl
  | call session c => exact hstill ⟨rfl, rfl, rfl⟩ rfl
  | prune now => exact hstill (Filter.sameBooks_prune hf.observes_enabled now T.state) rfl
  | overrideConfig id config =>
    refine hstill ?_ rfl
    show T.state.SameBooks l (T.state.overrideConfig id config)
    unfold FilterState.overrideConfig
    cases T.state.sessions.find? id <;> exact ⟨rfl, rfl, rfl⟩
  | elsewhere after => exact absurd rfl (hm after)

theorem balanced_start (hst : st.followUps = []) :
    Balanced settings l st (Traffic.start st) [] where
  counters := rfl
  noted := by
    intro u hu
    rw [show (Traffic.start st).state.followUps = [] from hst] at hu
    cases hu
  missed := by
    intro key now hmissed
    cases hmissed
  exactly := by
    rw [show (Traffic.start st).state.followUps = [] from hst]
    exact .refl _

/-- Whatever `Runs` keeps the books `Balanced`. -/
theorem balanced_runs (hf : Installed settings l f) (h : Runs settings l f st T history) :
    Balanced settings l st T history := by
  induction h with
  | start hst => exact balanced_start hst
  | @move T history m hm h ih =>
    obtain ⟨moves, rfl⟩ := h.exists_moves
    exact balanced_move ih hf (Traffic.attested_run f st moves) m hm
  | @tell T history i u hu h ih =>
    obtain ⟨moves, rfl⟩ := h.exists_moves
    exact ih.tell hf (Traffic.attested_run f st moves) hu (get_tell hf ..) rfl rfl
      (List.Subset.refl _)
  | @reset T history target h ih =>
    have hreset : l.get (l.modify (fun c => c.reset target) T.state.memory)
        = (l.get T.state.memory).reset target := hf.get_set ..
    constructor
    · show l.get (l.modify (fun c => c.reset target) T.state.memory) = _
      rw [hreset, ih.counters, List.foldl_append]
      rfl
    · exact ih.noted
    · intro key now hmissed
      rcases List.mem_append.1 hmissed with hold | hnew
      · exact ih.missed key now hold
      · simp at hnew
    · rw [List.filterMap_append, show [Entry.reset target].filterMap Entry.key? = [] from rfl,
        List.append_nil]
      exact ih.exactly
  | @aside T history after hpart hfollowUps h ih =>
    exact ih.still hpart hfollowUps rfl (List.Subset.refl _)

/-! ### Each message once -/

/-- The account of the quotas, when `T` has been run from `st` with `history` for the counters. -/
structure CountedOnce (settings : QuotaSettings) (l : Focus σ Counters) (f : Filter σ)
    (st : FilterState σ) (T : Traffic σ) (history : List Entry) : Prop where
  /-- The counters have gone through their history and nothing else. -/
  counters : l.get T.state.memory = history.foldl (Entry.apply settings) (l.get st.memory)
  /-- The events that have been recorded or missed, with those that are when the modules will have been
  told all that they still have to be told: one for each message that has been permitted and about which
  the quotas are told, under the name of its sender. -/
  exactly : (history.filterMap Entry.key? ++ T.state.followUps.filterMap due?).Perm
    (T.told.filterMap fun c => charge? c.1)
  missed : Missed settings T history
  /-- No message is told about twice. -/
  once : (T.told.map fun c => c.1.ctx.message.id).Nodup
  /-- The quotas are told about the messages that have passed when they were complete, and whose result
  of the quotas has been collected; as it is unless collection has stopped. -/
  passes : ∀ c ∈ T.told, ∃ e ∈ T.log, e.task = .complete c.1.session c.1.config c.1.ctx ∧
    c.1.verdict = (f.verdictAt e.before c.1.config c.1.ctx).effective
      c.1.ctx.connection.allowListed ∧
    (isTold c.1 = true ↔ Passes settings l f e.before c.1) ∧
    (c.1.verdict.breakerTripped = false → Collected f e.before c.1.config c.1.ctx)
  /-- The end of a message that is over has told about its verdict, or it has recorded none. -/
  ended : ∀ (i : Nat) (thread : Traffic.Thread σ) (outcome : Except Panic Answer),
    T.threads[i]? = some thread → thread.callback.stage = .eom →
    thread.progress = .done outcome →
    (∃ r record, outcome = .ok r.answer ∧ (r, record) ∈ T.told) ∨
      (Traffic.account (T.eventsOf i)).recorded = []

theorem passes_of_told (hf : Installed settings l f) (hT : T.Attested f)
    {c : Ruling × MessageRecord} (hc : c ∈ T.told) :
    ∃ e ∈ T.log, e.task = .complete c.1.session c.1.config c.1.ctx ∧
      c.1.verdict = (f.verdictAt e.before c.1.config c.1.ctx).effective
        c.1.ctx.connection.allowListed ∧
      (isTold c.1 = true ↔ Passes settings l f e.before c.1) ∧
      (c.1.verdict.breakerTripped = false → Collected f e.before c.1.config c.1.ctx) := by
  obtain ⟨e, he, htask, hv⟩ := hT.told c hc
  refine ⟨e, he, htask, hv, isTold_iff hf hv, fun htripped => ?_⟩
  have hsame : c.1.verdict.breakerTripped
      = (f.verdictAt e.before c.1.config c.1.ctx).breakerTripped := by
    rw [hv, Verdict.effective]
    split <;> rfl
  exact Judging.collects_of_complete (m := e.before.metrics) (hsame.symm.trans htripped) _

/-- **Each permitted message is counted once against the quota of its sender**, as `CountedOnce` says,
whatever other checkers there are and however messages are scored, if it has passed and the result of the
quotas has been collected; no other message is counted. -/
theorem counted_once (hf : Installed settings l f) (h : Runs settings l f st T history) :
    CountedOnce settings l f st T history := by
  have hbalanced := balanced_runs hf h
  obtain ⟨moves, rfl⟩ := h.exists_moves
  have htraced := Traffic.traced_run f st moves
  exact {
    counters := hbalanced.counters
    exactly := hbalanced.exactly
    missed := hbalanced.missed
    once := Traffic.nodup_told htraced (Traffic.recorded_run f st moves)
    passes := fun c hc => passes_of_told hf (Traffic.attested_run f st moves) hc
    ended := fun i thread outcome hi hstage hdone => Traffic.told_of_over htraced hi hstage hdone }

end

/-- In the course of moves nothing happens to the counters: the traffic `Runs` with the same history. -/
theorem Runs.moves {settings : QuotaSettings} {l : Focus σ Counters} {f : Filter σ}
    {st : FilterState σ} {T : Traffic σ} {history : List Entry}
    (h : Runs settings l f st T history) {moves : List (Traffic.Move σ)}
    (hmoves : ∀ m ∈ moves, ∀ after, m ≠ .elsewhere after) :
    Runs settings l f st (T.run f moves) history := by
  induction moves generalizing T with
  | nil => exact h
  | cons m rest ih =>
    obtain ⟨hm, hrest⟩ := List.forall_mem_cons.1 hmoves
    exact ih (h.move m hm) hrest

/-! ### One message -/

/-- All of a memory. -/
def whole : Focus Counters Counters := ⟨id, fun c _ => c⟩

/-- The quotas, started after the checkers in `others`. -/
def behind (others : List (Checker Counters)) : Filter Counters :=
  { registry := ⟨others ++ [(checker { enabled := true }).focus whole]⟩
    maxAgeSecs := 900 }

/-- A checker that strongly favours every message. -/
def keen : Checker Counters where
  name := "keen"
  check _ _ s := ({ outcome := .opinion (CheckResult.new .permit 30.0) }, s)

/-- A filter that has not been used yet. -/
def unused : FilterState Counters :=
  { config := {}, clock := { nanos := 0 }, memory := [], queue := Queue.new 1 .nowhere }

/-- A client of the `unused` filter sends a message, up to where its checks are about to be started. -/
def offering : List (Traffic.Move Counters) :=
  [.connect none none none, .call (some (Uuid.issued 0)) (.envFrom ["<A@example.org>"] {}), .go 0,
    .call (some (Uuid.issued 0)) (.envRcpt ["<b@example.com>"]), .go 1, .go 1, .go 1,
    .call (some (Uuid.issued 0)) (.eom none), .go 2]

/-- A message has been offered: the moves `offering` have been made. -/
def offered (others : List (Checker Counters)) : Traffic Counters :=
  (Traffic.start unused).run (behind others) offering

/-- Then the end of the message that was `offered` has been left to itself. -/
def sent (others : List (Checker Counters)) : Traffic Counters :=
  (offered others).run (behind others) (List.replicate 4 (.go 2))

theorem runs_sent (others : List (Checker Counters)) :
    Runs { enabled := true } whole (behind others) unused (sent others) [] := by
  have hstart : Runs { enabled := true } whole (behind others) unused
      (Traffic.start unused) [] := .start rfl
  have hoffering : ∀ m ∈ offering, ∀ after, m ≠ .elsewhere after := by simp [offering]
  have hleft : ∀ m ∈ List.replicate 4 (.go 2 : Traffic.Move Counters),
      ∀ after, m ≠ .elsewhere after := by simp
  exact (hstart.moves hoffering).moves hleft

theorem installed_behind {others : List (Checker Counters)}
    (hnames : ((behind others).registry.checkers.map (·.name)).Nodup)
    (hobserves : ∀ c ∈ others, c.Observes whole)
    (hfollowUp : ∀ c ∈ others, ∀ token action now s, c.followUp token action now s = s) :
    Installed { enabled := true } whole (behind others) where
  get_set _ _ := rfl
  enabled := rfl
  mem := List.mem_append_right _ List.mem_cons_self
  names := hnames
  observes := by
    intro c hc hname
    rcases List.mem_append.1 hc with hc | hc
    · exact hobserves c hc
    · rw [List.mem_singleton.1 hc] at hname
      exact absurd rfl hname
  followUp := by
    intro c hc hname token action now s
    rcases List.mem_append.1 hc with hc | hc
    · exact hfollowUp c hc token action now s
    · rw [List.mem_singleton.1 hc] at hname
      exact absurd rfl hname

theorem installed_alone : Installed { enabled := true } whole (behind []) :=
  installed_behind (by decide) (fun c hc => by cases hc) fun c hc => by cases hc

theorem installed_behind_keen :
    Installed { enabled := true } whole (behind [keen]) := by
  refine installed_behind (by decide) (List.forall_mem_singleton.2 ?_)
    (List.forall_mem_singleton.2 ?_)
  · exact ⟨fun _ _ _ => rfl, fun _ => rfl, fun _ _ _ => rfl, fun _ _ => rfl⟩
  · exact fun _ _ _ _ => rfl

/-- What there is when a message has been `offered`. -/
structure Offered (others : List (Checker Counters)) (ctx : CheckContext) : Prop where
  thread : (offered others).threads[2]?
    = some ⟨some (Uuid.issued 0), .eom none, .next (.complete (Uuid.issued 0) {} ctx)⟩
  session : ∃ s m, (offered others).state.sessions.held? (Uuid.issued 0) = some s ∧
    s.current? = some m ∧ m.id = ctx.message.id
  told : (offered others).told = []
  sender : ctx.message.sender = Address.ofArgument "<A@example.org>"
  memory : (offered others).state.memory = []
  clock : (offered others).state.clock = { nanos := 0 }

theorem exists_offered_alone : ∃ ctx, Offered [] ctx := by
  refine ⟨_, by with_unfolding_all rfl, ⟨_, _, by with_unfolding_all rfl, by with_unfolding_all rfl,
    by with_unfolding_all rfl⟩, ?_, ?_, ?_, ?_⟩
  all_goals with_unfolding_all rfl

theorem exists_offered_keen : ∃ ctx, Offered [keen] ctx := by
  refine ⟨_, by with_unfolding_all rfl, ⟨_, _, by with_unfolding_all rfl, by with_unfolding_all rfl,
    by with_unfolding_all rfl⟩, ?_, ?_, ?_, ?_⟩
  all_goals with_unfolding_all rfl

/-- What comes of the check of the quotas, started at the `place`. -/
def ownArrival (place : Nat) : Arrival Counters :=
  Judging.arrivalOf ({} : Config).milter.moduleTimeoutMs ({} : Config).scoring.errorScore
    ((checker { enabled := true }).focus whole) place
    { outcome := outcome { enabled := true } [] (Address.ofArgument "<A@example.org>")
        { nanos := 0 } }

/-- What comes of the check of the checker `keen`. -/
def keenArrival : Arrival Counters :=
  Judging.arrivalOf ({} : Config).milter.moduleTimeoutMs ({} : Config).scoring.errorScore keen 0
    { outcome := .opinion (CheckResult.new .permit 30.0) }

namespace Offered

variable {others : List (Checker Counters)} {ctx : CheckContext}

/-- Nobody has sent anything before, so the quotas let a message pass that is `Offered`. -/
theorem admits (h : Offered others ctx) :
    Admits { enabled := true } (offered others).state.memory ctx.message.sender
      (offered others).state.clock := by
  rw [h.memory, h.clock, h.sender]
  exact ⟨by decide +kernel, 0, by decide, rfl⟩

theorem pending (h : Offered others ctx) {arrivals : List (Arrival Counters)}
    (hstart : (Judging.startAll {} ctx { nanos := 0 } 0 (behind others).registry.enabled []).1
      = arrivals) (hprompt : ∀ a ∈ arrivals, a.atMs = 0) :
    ((behind others).judgingAt (offered others).state {} ctx).pending = arrivals := by
  rw [Filter.judgingAt, h.memory, h.clock, ← hstart]
  exact Judging.pending_start_of_prompt (hstart ▸ hprompt)

theorem pending_alone (h : Offered [] ctx) :
    ((behind []).judgingAt (offered []).state {} ctx).pending = [ownArrival 0] := by
  refine h.pending ?_ (by decide +kernel)
  rw [ownArrival, ← h.sender]
  rfl

theorem pending_keen (h : Offered [keen] ctx) :
    ((behind [keen]).judgingAt (offered [keen]).state {} ctx).pending
      = [keenArrival, ownArrival 1] := by
  refine h.pending ?_ (by decide +kernel)
  rw [ownArrival, ← h.sender]
  rfl

/-- The message that is `Offered` is permitted, and its end is over. -/
theorem sent (h : Offered others ctx) {arrivals : List (Arrival Counters)}
    (hpending : ((behind others).judgingAt (offered others).state {} ctx).pending = arrivals)
    (hprompt : ∀ a ∈ arrivals, a.atMs = 0)
    (hpermits : ∀ x ∈ Judging.brought arrivals, x.2.action = .permit) :
    ∃ r record, r.config = {} ∧ r.ctx = ctx ∧ (Quota.sent others).told = [(r, record)] ∧
      r.verdict = ((behind others).verdictAt (offered others).state r.config r.ctx).effective
        r.ctx.connection.allowListed ∧ r.verdict.action = .permit ∧
      (Quota.sent others).threads[2]?
        = some ⟨some (Uuid.issued 0), .eom none, .done (.ok r.answer)⟩ ∧
      ∃ e ∈ (Quota.sent others).log, e.task = .complete r.session r.config r.ctx ∧
        e.before = (offered others).state := by
  obtain ⟨s, m, hs, hm, hid⟩ := h.session
  have hreaches : (offered others).Reaches 2
      ⟨some (Uuid.issued 0), .eom none, .next (.complete (Uuid.issued 0) {} ctx)⟩
      (.next (.complete (Uuid.issued 0) {} ctx)) (offered others).state := ⟨h.thread, rfl⟩
  have hall : ∀ a ∈ ((behind others).judgingAt (offered others).state {} ctx).pending,
      a.atMs = 0 := by rwa [hpending]
  obtain ⟨r, record, hr, htold, hdone, e, he, htask, hbefore⟩ := hreaches.tells hall hs hm hid
  rw [h.told] at htold
  have hconfig : r.config = {} := by rw [hr, Filter.ruled]
  have hctx : r.ctx = ctx := by rw [hr, Filter.ruled]
  have hsession : r.session = Uuid.issued 0 := by rw [hr, Filter.ruled]
  have hpermit : ((behind others).verdictAt (offered others).state {} ctx).action = .permit := by
    rw [Filter.verdictAt, Judging.verdict_judge]
    refine Collection.action_of_permits ?_ (by decide +kernel) (by decide +kernel)
    rwa [← hpending] at hpermits
  have hv : r.verdict = ((behind others).verdictAt (offered others).state r.config r.ctx).effective
      r.ctx.connection.allowListed := by
    rw [hr, Filter.ruled]
  refine ⟨r, record, hconfig, hctx, htold, hv, ?_, hdone, e, he, ?_, hbefore⟩
  · rw [hv, Verdict.action_effective, hconfig, hctx, hpermit, ite_self]
  · rw [htask, hsession, hconfig, hctx]

end Offered

/-- The account of a message that the quotas alone have judged: one event for its sender. It is a case of
`counted_once`. -/
theorem counted_once_alone : ∃ c history,
    Installed { enabled := true } whole (behind []) ∧
      Runs { enabled := true } whole (behind []) unused (sent []) history ∧
      (sent []).told = [c] ∧ c.1.verdict.action = .permit ∧
      CountedOnce { enabled := true } whole (behind []) unused (sent []) history ∧
      history.filterMap Entry.key? ++ (sent []).state.followUps.filterMap due?
        = ["a@example.org"] := by
  obtain ⟨ctx, hoffered⟩ := exists_offered_alone
  have hruns := runs_sent []
  have hpending := hoffered.pending_alone
  obtain ⟨r, record, hconfig, hctx, htold, hv, hpermit, -, -⟩ :=
    hoffered.sent hpending (by decide +kernel) (by decide +kernel)
  have hcounted := counted_once installed_alone hruns
  refine ⟨(r, record), [], installed_alone, hruns, htold, hpermit, hcounted, ?_⟩
  have hpasses : Passes { enabled := true } whole (behind []) (offered []).state r := by
    refine ⟨hctx ▸ hoffered.admits, ?_⟩
    rw [hconfig, hctx, Collected, Judging.Collects, hpending]
    rfl
  have hkey : senderKey r.ctx.message.sender = "a@example.org" := by
    rw [hctx, hoffered.sender]
    decide +kernel
  have hexactly := hcounted.exactly
  rw [htold, List.filterMap_cons, charge?,
    if_pos ⟨hpermit, (isTold_iff installed_alone hv).2 hpasses⟩, hkey] at hexactly
  exact List.perm_singleton.1 hexactly

/-- A message that passes and is permitted, and whose end is over, is not counted: what `keen` says for
it stops collection before the result of the quotas has come. -/
theorem uncounted_permit : ∃ c history,
    Installed { enabled := true } whole (behind [keen]) ∧
      Runs { enabled := true } whole (behind [keen]) unused (sent [keen]) history ∧
      (sent [keen]).told = [c] ∧ c.1.verdict.action = .permit ∧
      (sent [keen]).threads[2]?
        = some ⟨some (Uuid.issued 0), .eom none, .done (.ok c.1.answer)⟩ ∧
      (∃ e ∈ (sent [keen]).log, e.task = .complete c.1.session c.1.config c.1.ctx ∧
        Admits { enabled := true } e.before.memory c.1.ctx.message.sender e.before.clock) ∧
      history.filterMap Entry.key? ++ (sent [keen]).state.followUps.filterMap due? = [] := by
  obtain ⟨ctx, hoffered⟩ := exists_offered_keen
  have hruns := runs_sent [keen]
  have hpending := hoffered.pending_keen
  obtain ⟨r, record, hconfig, hctx, htold, hv, hpermit, hdone, e, he, htask, hbefore⟩ :=
    hoffered.sent hpending (by decide +kernel) (by decide +kernel)
  refine ⟨(r, record), [], installed_behind_keen, hruns, htold, hpermit, hdone,
    ⟨e, he, htask, ?_⟩, ?_⟩
  · rw [hbefore, hctx]
    exact hoffered.admits
  have hnot : ¬ Passes { enabled := true } whole (behind [keen])
      (offered [keen]).state r := by
    rintro ⟨-, hcollected⟩
    rw [hconfig, hctx, Collected, Judging.Collects, hpending] at hcollected
    have htripped : ((Collection.empty : Collection Float).addAll ({} : Config).scoring
        (Judging.brought [keenArrival])).tripped = true := by decide +kernel
    exact Bool.false_ne_true (hcollected.symm.trans htripped)
  have hexactly := (balanced_runs installed_behind_keen hruns).exactly
  rw [htold, List.filterMap_cons, charge?,
    if_neg fun h => hnot ((isTold_iff installed_behind_keen hv).1 h.2)] at hexactly
  exact List.perm_nil.1 hexactly

end Quota

end MailFilter
