/-
How far the quotas let a sender overshoot.

A message that passes the check is counted only when its verdict is known, and until then other messages
of the sender may pass. So there may be more events in a window than the limit says, but never by more
than there were messages under way besides the last one that passed.

* `counted_run`: the counters hold what has been recorded, as far as it can still count;
* `bounded_run`: events in a window and messages under way, as long as the window has not ended;
* `overshoot`: the bound for every window of every run.
-/
import Mathlib.Data.List.Induction
import Mathlib.Data.List.Infix
import Mathlib.Data.List.Perm.Basic
import MailFilter.Proofs.Checker.Counters

namespace MailFilter

/-- What a check asks to be told after the verdict. -/
def CheckOutcome.requests : CheckOutcome → List String
  | opinion r => r.followUps
  | abstained | failed _ | panicked _ => []

namespace Quota

/-! ### Runs -/

/-- What may happen to the quotas, with the reading of the clock. -/
inductive Move where
  /-- A message is checked. -/
  | check (ctx : CheckContext) (now : Timestamp)
  /-- One of the requests that are still open is told what has become of its message. -/
  | tell (i : Nat) (action : Action) (now : Timestamp)
  /-- One of them is dropped. -/
  | drop (i : Nat)

/-- The reading of the clock, unless a request is dropped. -/
def Move.now? : Move → Option Timestamp
  | check _ now | tell _ _ now => some now
  | drop _ => none

/-- The quotas in the course of a run. -/
structure Course where
  counters : Counters := []
  /-- The requests that are still open, one for each message that has passed. -/
  waiting : List String := []
  /-- All events that have been recorded, earliest first. -/
  recorded : List (String × Timestamp) := []

namespace Course

/-- What `settle` records when it is told about a message. -/
def records (settings : QuotaSettings) (key : String) (action : Action) (now : Timestamp) :
    List (String × Timestamp) :=
  match action, window settings >>= cutoff now with
  | .permit, .ok _ => [(key, now)]
  | _, _ => []

/-- One `Move` of a `Course`. -/
def move (settings : QuotaSettings) (C : Course) : Move → Course
  | .check ctx now =>
    let (run, counters) := (checker settings).check ctx now C.counters
    { C with counters, waiting := C.waiting ++ run.outcome.requests }
  | .tell i action now =>
    match C.waiting[i]? with
    | none => C
    | some key =>
      { counters := (checker settings).followUp key action now C.counters
        waiting := C.waiting.eraseIdx i
        recorded := C.recorded ++ records settings key action now }
  | .drop i => { C with waiting := C.waiting.eraseIdx i }

/-- The `Course` after a run from the start, when nothing has been counted. -/
def run (settings : QuotaSettings) (moves : List Move) : Course :=
  moves.foldl (move settings) {}

/-- The events `recorded` for a sender after a point in time. -/
def after (C : Course) (key : String) (start : Timestamp) : List (String × Timestamp) :=
  C.recorded.filter fun e => e.1 = key ∧ start.nanos < e.2.nanos

/-- The events `recorded` for a sender in the window that ends at a point in time. -/
def within (settings : QuotaSettings) (C : Course) (key : String) (t : Timestamp) :
    List (String × Timestamp) :=
  C.recorded.filter fun e =>
    e.1 = key ∧ (t.laterSecs (-settings.windowSecs)).nanos < e.2.nanos ∧ e.2.nanos ≤ t.nanos

end Course

/-- The readings of the clock in a run, `now?` of its moves. -/
def readings (moves : List Move) : List Timestamp :=
  moves.filterMap Move.now?

/-! ### The window -/

theorem window_eq {settings : QuotaSettings} {windowSecs : Nat}
    (h : window settings = .ok windowSecs) : windowSecs = settings.windowSecs := by
  unfold window at h
  split at h
  · exact (Except.ok.inj h).symm
  · cases h

theorem cutoff_eq {now start : Timestamp} {windowSecs : Nat}
    (h : cutoff now windowSecs = .ok start) : start = now.laterSecs (-windowSecs) := by
  unfold cutoff at h
  dsimp only at h
  split at h
  · exact (Except.ok.inj h).symm
  · cases h

theorem start_eq {settings : QuotaSettings} {now start : Timestamp}
    (h : window settings >>= cutoff now = .ok start) :
    start = now.laterSecs (-settings.windowSecs) := by
  cases hw : window settings with
  | error p =>
    rw [hw] at h
    cases h
  | ok windowSecs =>
    rw [hw] at h
    rw [← window_eq hw]
    exact cutoff_eq h

theorem count_eq {settings : QuotaSettings} {c : Counters} {key : String} {now : Timestamp} {n : Nat}
    (h : count settings c key now = .ok n) :
    n = c.countAfter key (now.laterSecs (-settings.windowSecs)) := by
  unfold count at h
  cases hw : window settings with
  | error p =>
    rw [hw] at h
    cases h
  | ok windowSecs =>
    rw [hw] at h
    change (cutoff now windowSecs >>= fun start => pure (c.countAfter key start)) = .ok n at h
    cases hc : cutoff now windowSecs with
    | error p =>
      rw [hc] at h
      cases h
    | ok start =>
      rw [hc] at h
      rw [← window_eq hw, ← cutoff_eq hc]
      exact (Except.ok.inj h).symm

/-- A window starts the later the later it ends. -/
theorem start_le {now now' : Timestamp} (h : now.nanos ≤ now'.nanos) (windowSecs : Nat) :
    (now.laterSecs (-windowSecs)).nanos ≤ (now'.laterSecs (-windowSecs)).nanos := by
  simp only [Timestamp.laterSecs, Timestamp.later]
  omega

/-! ### One move -/

/-- A message passes the check: its sender has a quota, and the `count` is below the limit. -/
def Admits (settings : QuotaSettings) (c : Counters) (sender : Address) (now : Timestamp) : Prop :=
  sender.isNull = false ∧
    ∃ n < settings.maxMessages, count settings c (senderKey sender) now = .ok n

/-- The check asks to be told about the messages that it `Admits`, by the `senderKey`. -/
theorem requests_outcome (settings : QuotaSettings) (c : Counters) (sender : Address)
    (now : Timestamp) :
    (Admits settings c sender now ∧ (outcome settings c sender now).requests = [senderKey sender]) ∨
    (¬ Admits settings c sender now ∧ (outcome settings c sender now).requests = []) := by
  unfold outcome
  by_cases hnull : sender.isNull = true
  · rw [if_pos hnull]
    exact .inr ⟨fun h => Bool.false_ne_true (h.1.symm.trans hnull), rfl⟩
  · rw [if_neg hnull]
    dsimp only
    cases hn : count settings c (senderKey sender) now with
    | error p =>
      refine .inr ⟨?_, rfl⟩
      rintro ⟨-, n, -, hcount⟩
      rw [hn] at hcount
      cases hcount
    | ok n =>
      dsimp only [CheckOutcome.requests]
      unfold opinion
      by_cases hlimit : settings.maxMessages ≤ n
      · rw [if_pos hlimit]
        refine .inr ⟨?_, rfl⟩
        rintro ⟨-, m, hlt, hcount⟩
        rw [hn, Except.ok.injEq] at hcount
        omega
      · rw [if_neg hlimit]
        exact .inl ⟨⟨by simpa using hnull, n, by omega, hn⟩, rfl⟩

/-- A check asks for nothing, or `countAfter` is below the limit and it asks for that sender. -/
theorem requests_check (settings : QuotaSettings) (c : Counters) (ctx : CheckContext)
    (now : Timestamp) :
    ((checker settings).check ctx now c).1.outcome.requests = [] ∨
    ∃ key, ((checker settings).check ctx now c).1.outcome.requests = [key] ∧
      c.countAfter key (now.laterSecs (-settings.windowSecs)) < settings.maxMessages := by
  rcases requests_outcome settings c ctx.message.sender now with
    ⟨⟨-, n, hlt, hcount⟩, hrequests⟩ | ⟨-, hrequests⟩
  · rw [count_eq hcount] at hlt
    exact .inr ⟨_, hrequests, hlt⟩
  · exact .inl hrequests

/-- Telling about a message with `settle` sweeps and records, or it leaves everything as it is. -/
theorem settle_cases (settings : QuotaSettings) (key : String) (action : Action) (now : Timestamp)
    (c : Counters) :
    (settle settings key action now c = c ∧ Course.records settings key action now = []) ∨
    (settle settings key action now c
        = c.record key now (now.laterSecs (-settings.windowSecs)) ∧
      Course.records settings key action now = [(key, now)]) := by
  unfold settle Course.records
  cases action with
  | permit =>
    rw [if_pos rfl]
    cases h : window settings >>= cutoff now with
    | error p => exact .inl ⟨rfl, rfl⟩
    | ok start =>
      rw [start_eq h]
      exact .inr ⟨rfl, rfl⟩
  | reject | tempfail | error => exact .inl ⟨rfl, rfl⟩

namespace Course

theorem run_concat (settings : QuotaSettings) (moves : List Move) (m : Move) :
    run settings (moves ++ [m]) = (run settings moves).move settings m := by
  simp [run, List.foldl_append]

theorem after_append (C : Course) (counters : Counters) (waiting : List String)
    (events : List (String × Timestamp)) (key : String) (start : Timestamp) :
    (⟨counters, waiting, C.recorded ++ events⟩ : Course).after key start
      = C.after key start ++ events.filter fun e => e.1 = key ∧ start.nanos < e.2.nanos :=
  List.filter_append ..

theorem within_append (settings : QuotaSettings) (C : Course) (counters : Counters)
    (waiting : List String) (events : List (String × Timestamp)) (key : String) (t : Timestamp) :
    (⟨counters, waiting, C.recorded ++ events⟩ : Course).within settings key t
      = C.within settings key t ++ events.filter fun e =>
        e.1 = key ∧ (t.laterSecs (-settings.windowSecs)).nanos < e.2.nanos ∧ e.2.nanos ≤ t.nanos :=
  List.filter_append ..

/-- What is `within` a window that ends later is not more than what came `after` the start of an earlier
one. -/
theorem within_le_after (settings : QuotaSettings) (C : Course) (key : String) {now t : Timestamp}
    (h : now.nanos ≤ t.nanos) :
    (C.within settings key t).length ≤ (C.after key (now.laterSecs (-settings.windowSecs))).length := by
  have hstart := start_le h settings.windowSecs
  rw [within, after, ← List.countP_eq_length_filter, ← List.countP_eq_length_filter]
  refine List.countP_mono_left fun e _ he => ?_
  simp only [decide_eq_true_eq] at he ⊢
  exact ⟨he.1, by omega⟩

end Course

/-! ### What is counted -/

/-- The counters hold what has been `recorded`, as far as it is later than all that has been swept. -/
structure Counted (settings : QuotaSettings) (moves : List Move) : Prop where
  sorted : Fields.Sorted (Course.run settings moves).counters
  exact : ∀ (key : String) (start : Timestamp),
    (∀ now ∈ readings moves, (now.laterSecs (-settings.windowSecs)).nanos ≤ start.nanos) →
    (Course.run settings moves).counters.countAfter key start
      = ((Course.run settings moves).after key start).length

theorem readings_concat (moves : List Move) (m : Move) :
    readings (moves ++ [m]) = readings moves ++ m.now?.toList :=
  List.filterMap_append

/-- Every move keeps the counters `Counted`. -/
theorem counted_concat {settings : QuotaSettings} {moves : List Move} (h : Counted settings moves)
    (m : Move) : Counted settings (moves ++ [m]) := by
  -- only telling touches the counters, and its window starts no later than those that are still
  -- asked for
  have hbefore : ∀ {start : Timestamp},
      (∀ now ∈ readings (moves ++ [m]), (now.laterSecs (-settings.windowSecs)).nanos ≤ start.nanos) →
      ∀ now ∈ readings moves, (now.laterSecs (-settings.windowSecs)).nanos ≤ start.nanos := by
    intro start hall now hnow
    rw [readings_concat] at hall
    exact hall now (List.mem_append_left _ hnow)
  constructor
  · rw [Course.run_concat]
    cases m with
    | check ctx now | drop i => exact h.sorted
    | tell i action now =>
      rw [Course.move]
      split
      · exact h.sorted
      · next key hi =>
        show Fields.Sorted (settle settings key action now _)
        rcases settle_cases settings key action now (Course.run settings moves).counters
          with ⟨heq, -⟩ | ⟨heq, -⟩
        · rw [heq]
          exact h.sorted
        · rw [heq]
          exact Counters.sorted_record h.sorted ..
  · intro key start hall
    have hold := h.exact key start (hbefore hall)
    rw [Course.run_concat]
    cases m with
    | check ctx now | drop i => exact hold
    | tell i action now =>
      have hnow : (now.laterSecs (-settings.windowSecs)).nanos ≤ start.nanos := by
        refine hall now ?_
        rw [readings_concat]
        exact List.mem_append_right _ (List.mem_singleton.2 rfl)
      rw [Course.move]
      split
      · exact hold
      · next sender hi =>
        show (settle settings sender action now _).countAfter key start = _
        rw [Course.after_append]
        rcases settle_cases settings sender action now (Course.run settings moves).counters
          with ⟨heq, hrecords⟩ | ⟨heq, hrecords⟩
        · rw [heq, hrecords, hold]
          simp
        · -- the sweep ends before the events that are counted begin
          rw [heq, hrecords, Counters.countAfter_record h.sorted _ _ hnow, hold,
            List.length_append]
          by_cases hone : sender = key ∧ start.nanos < now.nanos <;> simp [hone]

theorem counted_run (settings : QuotaSettings) (moves : List Move) : Counted settings moves := by
  induction moves using List.reverseRecOn with
  | nil => exact ⟨List.Pairwise.nil, fun _ _ _ => rfl⟩
  | append_singleton moves m ih => exact counted_concat ih m

/-! ### The bound -/

theorem count_eraseIdx_le (waiting : List String) (i : Nat) (key : String) :
    (waiting.eraseIdx i).count key ≤ waiting.count key :=
  List.Sublist.count_le key (List.eraseIdx_sublist ..)

/-- A request that has been told is no longer `waiting`. -/
theorem count_eraseIdx {waiting : List String} {i : Nat} {sender : String}
    (hi : waiting[i]? = some sender) (key : String) :
    waiting.count key = (waiting.eraseIdx i).count key + if sender = key then 1 else 0 := by
  obtain ⟨hlt, rfl⟩ := List.getElem?_eq_some_iff.1 hi
  have hperm := (List.getElem_cons_eraseIdx_perm hlt).count_eq key
  rw [← hperm, List.count_cons]
  simp

/-- The events of a sender in the window that ends at `t`, and the messages of the sender under way
as long as the window has not ended. -/
structure Bounded (settings : QuotaSettings) (key : String) (k : Nat) (t : Timestamp)
    (moves : List Move) : Prop where
  within : ((Course.run settings moves).within settings key t).length
    ≤ settings.maxMessages + k - 1
  underWay : (∀ now ∈ readings moves, now.nanos ≤ t.nanos) →
    ((Course.run settings moves).within settings key t).length +
      (Course.run settings moves).waiting.count key ≤ settings.maxMessages + k - 1

theorem bounded_check {settings : QuotaSettings} {key : String} {k : Nat} {t : Timestamp}
    {moves : List Move} (h : Bounded settings key k t moves) {ctx : CheckContext} {now : Timestamp}
    (hclock : ∀ earlier ∈ readings moves, earlier.nanos ≤ now.nanos)
    (hwaiting : (Course.run settings (moves ++ [.check ctx now])).waiting.count key ≤ k) :
    Bounded settings key k t (moves ++ [.check ctx now]) := by
  have hreadings : now ∈ readings (moves ++ [.check ctx now]) := by
    rw [readings_concat]
    exact List.mem_append_right _ (List.mem_singleton.2 rfl)
  have hmove : Course.run settings (moves ++ [.check ctx now])
      = { Course.run settings moves with
          waiting := (Course.run settings moves).waiting ++
            ((checker settings).check ctx now
              (Course.run settings moves).counters).1.outcome.requests } := by
    rw [Course.run_concat]
    rfl
  rw [hmove] at hwaiting
  constructor
  · rw [hmove]
    exact h.within
  · intro hall
    have hnow := hall now hreadings
    have hold := h.underWay fun earlier hearlier => Int.le_trans (hclock earlier hearlier) hnow
    rw [hmove]
    rcases requests_check settings (Course.run settings moves).counters ctx now
      with hnone | ⟨sender, hone, hlimit⟩
    · rw [hnone, List.append_nil]
      exact hold
    · by_cases hsender : sender = key
      · -- the message that passes has seen all events of the window so far
        subst hsender
        have hexact := (counted_run settings moves).exact sender
          (now.laterSecs (-settings.windowSecs))
          fun earlier hearlier => start_le (hclock earlier hearlier) _
        have hseen := Course.within_le_after settings (Course.run settings moves) sender hnow
        show ((Course.run settings moves).within settings sender t).length + _ ≤ _
        simp only at hwaiting ⊢
        omega
      · rw [hone]
        simp only [List.count_append, List.count_singleton, beq_iff_eq, hsender, if_false,
          Nat.add_zero]
        exact hold

/-- Telling about a message ends its `waiting`. Of the events `within` a window it adds itself at most, and
only if it is of the sender and the window has not ended before. -/
theorem within_tell (settings : QuotaSettings) {C : Course} {i : Nat} {sender : String}
    (hi : C.waiting[i]? = some sender) (action : Action) (now : Timestamp) (key : String)
    (t : Timestamp) :
    ((C.move settings (.tell i action now)).within settings key t).length
        ≤ (C.within settings key t).length + (if sender = key ∧ now.nanos ≤ t.nanos then 1 else 0) ∧
      C.waiting.count key
        = (C.move settings (.tell i action now)).waiting.count key + if sender = key then 1 else 0 := by
  have hmove : C.move settings (.tell i action now)
      = { counters := settle settings sender action now C.counters
          waiting := C.waiting.eraseIdx i
          recorded := C.recorded ++ Course.records settings sender action now } := by
    rw [Course.move, hi]
    rfl
  rw [hmove, Course.within_append, List.length_append]
  refine ⟨Nat.add_le_add_left ?_ _, count_eraseIdx hi key⟩
  rcases settle_cases settings sender action now C.counters with ⟨-, hrecords⟩ | ⟨-, hrecords⟩
  · rw [hrecords]
    exact Nat.zero_le _
  · rw [hrecords]
    split
    · exact List.length_filter_le ..
    · next hnot =>
      rw [List.filter_eq_nil_iff.2 fun e he => ?_]
      · exact Nat.le_refl _
      · rw [List.mem_singleton.1 he, decide_eq_true_eq]
        exact fun hin => hnot ⟨hin.1, hin.2.2⟩

theorem bounded_tell {settings : QuotaSettings} {key : String} {k : Nat} {t : Timestamp}
    {moves : List Move} (h : Bounded settings key k t moves) {i : Nat} {action : Action}
    {now : Timestamp} (hclock : ∀ earlier ∈ readings moves, earlier.nanos ≤ now.nanos) :
    Bounded settings key k t (moves ++ [.tell i action now]) := by
  have hbefore : (∀ x ∈ readings (moves ++ [.tell i action now]), x.nanos ≤ t.nanos) →
      ∀ x ∈ readings moves, x.nanos ≤ t.nanos := by
    intro hall x hx
    rw [readings_concat] at hall
    exact hall x (List.mem_append_left _ hx)
  cases hi : (Course.run settings moves).waiting[i]? with
  | none =>
    have hmove : Course.run settings (moves ++ [.tell i action now]) = Course.run settings moves := by
      rw [Course.run_concat, Course.move, hi]
    exact ⟨hmove ▸ h.within, fun hall => hmove ▸ h.underWay (hbefore hall)⟩
  | some sender =>
    obtain ⟨hwithin, hwaiting⟩ := within_tell settings hi action now key t
    rw [← Course.run_concat] at hwithin hwaiting
    have hbound := h.within
    by_cases hcounts : sender = key ∧ now.nanos ≤ t.nanos
    · -- the message was under way, and now it may be an event in the window
      have hold := h.underWay fun x hx => Int.le_trans (hclock x hx) hcounts.2
      rw [if_pos hcounts] at hwithin
      rw [if_pos hcounts.1] at hwaiting
      exact ⟨by omega, fun _ => by omega⟩
    · rw [if_neg hcounts] at hwithin
      refine ⟨by omega, fun hall => ?_⟩
      have hold := h.underWay (hbefore hall)
      omega

theorem bounded_drop {settings : QuotaSettings} {key : String} {k : Nat} {t : Timestamp}
    {moves : List Move} (h : Bounded settings key k t moves) (i : Nat) :
    Bounded settings key k t (moves ++ [.drop i]) := by
  have hcount := count_eraseIdx_le (Course.run settings moves).waiting i key
  have hreadings : readings (moves ++ [.drop i]) = readings moves := by
    rw [readings_concat]
    exact List.append_nil _
  refine ⟨?_, fun hall => ?_⟩
  · rw [Course.run_concat]
    exact h.within
  · rw [hreadings] at hall
    have hold := h.underWay hall
    rw [Course.run_concat]
    show ((Course.run settings moves).within settings key t).length +
      ((Course.run settings moves).waiting.eraseIdx i).count key ≤ _
    omega

/-- The run is `Bounded` for every window, as long as there are never more than `k` messages of the
sender under way. -/
theorem bounded_run (settings : QuotaSettings) {key : String} {k : Nat} (t : Timestamp)
    {moves : List Move} (hclock : (readings moves).Pairwise fun a b => a.nanos ≤ b.nanos)
    (hwaiting : ∀ past, past <+: moves → (Course.run settings past).waiting.count key ≤ k) :
    Bounded settings key k t moves := by
  induction moves using List.reverseRecOn with
  | nil => exact ⟨Nat.zero_le _, fun _ => Nat.zero_le _⟩
  | append_singleton moves m ih =>
    rw [readings_concat, List.pairwise_append] at hclock
    obtain ⟨hpast, -, hlast⟩ := hclock
    have h := ih hpast fun past hstart => hwaiting past (hstart.trans (List.prefix_append ..))
    cases m with
    | check ctx now =>
      exact bounded_check h (fun earlier he => hlast earlier he now (List.mem_singleton.2 rfl))
        (hwaiting _ List.prefix_rfl)
    | tell i action now =>
      exact bounded_tell h fun earlier he => hlast earlier he now (List.mem_singleton.2 rfl)
    | drop i => exact bounded_drop h i

/-- Without a limit above zero nobody passes: nothing is `waiting`, and nothing is `recorded`. -/
theorem nothing_run {settings : QuotaSettings} (h : settings.maxMessages = 0) (moves : List Move) :
    (Course.run settings moves).waiting = [] ∧ (Course.run settings moves).recorded = [] := by
  induction moves using List.reverseRecOn with
  | nil => exact ⟨rfl, rfl⟩
  | append_singleton moves m ih =>
    obtain ⟨hwaiting, hrecorded⟩ := ih
    rw [Course.run_concat]
    cases m with
    | check ctx now =>
      rcases requests_check settings (Course.run settings moves).counters ctx now
        with hnone | ⟨key, -, hlimit⟩
      · refine ⟨?_, hrecorded⟩
        show (Course.run settings moves).waiting ++ ((checker settings).check ctx now
          (Course.run settings moves).counters).1.outcome.requests = []
        rw [hnone, hwaiting, List.append_nil]
      · omega
    | tell i action now =>
      rw [Course.move, hwaiting]
      exact ⟨hwaiting, hrecorded⟩
    | drop i =>
      refine ⟨?_, hrecorded⟩
      show (Course.run settings moves).waiting.eraseIdx i = []
      rw [hwaiting, List.eraseIdx_nil]

/-- What the quotas have come to for the sender `key`, of whom up to `k` messages have been under way at
once. -/
structure Overshoots (settings : QuotaSettings) (key : String) (k : Nat) (moves : List Move) :
    Prop where
  /-- Every window of the sender has less than `k` events above the limit. -/
  bound : ∀ t, ((Course.run settings moves).within settings key t).length
    ≤ settings.maxMessages + k - 1
  /-- Without a limit above zero there are no events at all. -/
  none : settings.maxMessages = 0 → (Course.run settings moves).recorded = []
  /-- The events are those that count: with a clock that does not go backwards, whoever asks for a
  count gets the number of events recorded since the start of the window. -/
  counts : ∀ now n, (∀ earlier ∈ readings moves, earlier.nanos ≤ now.nanos) →
    count settings (Course.run settings moves).counters key now = .ok n →
    n = ((Course.run settings moves).after key (now.laterSecs (-settings.windowSecs))).length

/-- **How far concurrency lets a sender overshoot.** Whatever is checked, told and dropped, of
whichever senders: if the clock never goes backwards, and never more than `k` messages of a sender have
passed the check and are still waiting for their verdicts, then no window has more events of the sender
than the limit and `k - 1`. In particular the limit is kept if the messages of the sender come one after
the other. -/
theorem overshoot (settings : QuotaSettings) {key : String} {k : Nat} {moves : List Move}
    (hclock : (readings moves).Pairwise fun a b => a.nanos ≤ b.nanos)
    (hwaiting : ∀ past, past <+: moves → (Course.run settings past).waiting.count key ≤ k) :
    Overshoots settings key k moves where
  bound := fun t => (bounded_run settings t hclock hwaiting).within
  none := fun h => (nothing_run h moves).2
  counts := by
    intro now n hearlier hcount
    rw [count_eq hcount]
    exact (counted_run settings moves).exact key _ fun x hx => start_le (hearlier x hx) _

/-- Two messages of a sender pass before either of them counts, and both are permitted: the case of
`overshoot` with `k = 2`. -/
theorem overshoot_twice :
    let settings : QuotaSettings := { maxMessages := 1, windowSecs := 60 }
    let message : Message :=
      .new (.issued 0) (.issued 1) ⟨"A", "example.org"⟩ ⟨0, false⟩
    let moves : List Move := [.check ⟨{}, message⟩ ⟨1, false⟩, .check ⟨{}, message⟩ ⟨2, false⟩,
      .tell 1 .permit ⟨3, false⟩, .tell 0 .permit ⟨3, false⟩]
    Overshoots settings "a@example.org" 2 moves ∧
      ((Course.run settings moves).within settings "a@example.org" ⟨3, false⟩).length = 2 := by
  intro settings message moves
  have hwaiting : ∀ past ∈ moves.inits,
      (Course.run settings past).waiting.count "a@example.org" ≤ 2 := by
    decide +kernel
  refine ⟨overshoot settings (by decide) fun past hpast => ?_, by decide +kernel⟩
  exact hwaiting past ((List.mem_inits ..).2 hpast)

end Quota

end MailFilter
