/-
The sliding window, for every sequence of uses.

Whoever records an event sweeps the queues of all senders, and each of them only up to its first event
that is still in the window. But windows start the later the later they end. So an event that has gone
from a queue is in no later window, and since a queue has its events in their order, a sweep that stops
at one of them has met all that are to go.

* `held_run`: what has been recorded for a sender has left the window, or stands in the queue;
* `counts_exactly`: counts and queues in the course of any sequence of uses.
-/
import Mathlib.Data.List.DropRight
import Mathlib.Data.List.Induction
import MailFilter.Proofs.Checker.Quota

namespace MailFilter

namespace Quota

/-! ### Uses of the counters -/

/-- What the `Counters` are there for. -/
inductive Use where
  /-- An event of a sender is recorded. -/
  | record (sender : String) (now : Timestamp)
  /-- A sender is forgotten, or all of them. -/
  | reset (target : Option String)
  /-- The events of a sender are counted. -/
  | count (sender : String) (now : Timestamp)

namespace Use

/-- The reading of the clock, unless counters are reset. -/
def now? : Use → Option Timestamp
  | record _ now | count _ now => some now
  | reset _ => none

/-- What becomes of the counters when they are put to a `Use`. -/
def perform (settings : QuotaSettings) (c : Counters) : Use → Counters
  | record sender now => settle settings sender .permit now c
  | reset target => c.reset target
  | count .. => c

/-- The sender `key` starts anew. -/
def forgets (key : String) : Use → Bool
  | reset target => target.all (Text.lowercase · = key)
  | record .. | count .. => false

/-- The event recorded for the sender `key`. -/
def event? (key : String) : Use → Option Timestamp
  | record sender now => if sender = key then some now else none
  | reset _ | count .. => none

end Use

/-- The counters after the `uses`, when nothing had been counted before. -/
def performed (settings : QuotaSettings) (uses : List Use) : Counters :=
  uses.foldl (Use.perform settings) []

/-- The readings of the clock, `now?` of the uses. -/
def clock (uses : List Use) : List Timestamp :=
  uses.filterMap Use.now?

/-- The events recorded for the sender `key` since a use that `forgets` it. -/
def recordedSince (key : String) (uses : List Use) : List Timestamp :=
  (uses.rtakeWhile fun use => !use.forgets key).filterMap (Use.event? key)

/-- The start of the window that ends `now`. -/
def windowStart (settings : QuotaSettings) (now : Timestamp) : Timestamp :=
  now.laterSecs (-settings.windowSecs)

/-- The window that ends `now` can be measured, and the calendar knows its start. -/
def Spans (settings : QuotaSettings) (now : Timestamp) : Prop :=
  settings.windowSecs ≤ maxWindowSecs ∧ earliest.nanos ≤ (windowStart settings now).nanos

instance (settings : QuotaSettings) (now : Timestamp) : Decidable (Spans settings now) :=
  inferInstanceAs (Decidable (_ ∧ _))

/-- The clock never goes backwards, and the windows of all that is asked for can be measured: each of
them `Spans`. -/
structure Timely (settings : QuotaSettings) (uses : List Use) : Prop where
  forward : (clock uses).Pairwise fun a b => a.nanos ≤ b.nanos
  spans : ∀ now ∈ clock uses, Spans settings now

variable {settings : QuotaSettings} {uses past : List Use} {use : Use} {now : Timestamp}

theorem start_of_spans (h : Spans settings now) :
    (window settings >>= cutoff now) = .ok (windowStart settings now) := by
  have hwindow : window settings = .ok settings.windowSecs := if_pos h.1
  rw [hwindow]
  exact if_pos h.2

theorem count_of_spans (h : Spans settings now) (c : Counters) (key : String) :
    count settings c key now = .ok (c.countAfter key (windowStart settings now)) := by
  have hwindow : window settings = .ok settings.windowSecs := if_pos h.1
  have hcutoff : cutoff now settings.windowSecs = .ok (windowStart settings now) := if_pos h.2
  rw [count, hwindow]
  show (cutoff now settings.windowSecs >>= fun start => pure (c.countAfter key start)) = _
  rw [hcutoff]
  rfl

theorem perform_record (h : Spans settings now) (c : Counters) (sender : String) :
    (Use.record sender now).perform settings c
      = c.record sender now (windowStart settings now) := by
  rw [Use.perform, settle, if_pos rfl, start_of_spans h]

theorem windowStart_lt (h : 0 < settings.windowSecs) (now : Timestamp) :
    (windowStart settings now).nanos < now.nanos := by
  simp only [windowStart, Timestamp.laterSecs, Timestamp.later, Timestamp.second]
  omega

theorem windowStart_of_zero (h : settings.windowSecs = 0) (now : Timestamp) :
    (windowStart settings now).nanos = now.nanos := by
  simp [windowStart, Timestamp.laterSecs, Timestamp.later, h]

/-! ### One use more -/

theorem performed_concat (settings : QuotaSettings) (uses : List Use) (use : Use) :
    performed settings (uses ++ [use]) = use.perform settings (performed settings uses) := by
  simp [performed, List.foldl_append]

theorem clock_concat (uses : List Use) (use : Use) :
    clock (uses ++ [use]) = clock uses ++ use.now?.toList :=
  List.filterMap_append

theorem recordedSince_concat (key : String) (uses : List Use) (use : Use) :
    recordedSince key (uses ++ [use])
      = if use.forgets key then [] else recordedSince key uses ++ (use.event? key).toList := by
  rw [recordedSince, List.rtakeWhile_concat, recordedSince]
  cases hforgets : use.forgets key with
  | true => rfl
  | false =>
    rw [if_pos (by rfl), if_neg Bool.false_ne_true]
    exact List.filterMap_append

namespace Timely

theorem of_prefix (h : Timely settings uses) (hpast : past <+: uses) : Timely settings past := by
  have hsublist : (clock past).Sublist (clock uses) := (hpast.filterMap _).sublist
  exact ⟨h.forward.sublist hsublist, fun now hnow => h.spans now (hsublist.subset hnow)⟩

theorem init (h : Timely settings (past ++ [use])) : Timely settings past :=
  h.of_prefix (List.prefix_append ..)

theorem spans_last (h : Timely settings (past ++ [use])) (hnow : use.now? = some now) :
    Spans settings now := by
  refine h.spans now ?_
  simp [clock_concat, hnow]

theorem le_last (h : Timely settings (past ++ [use])) (hnow : use.now? = some now) :
    ∀ earlier ∈ clock past, earlier.nanos ≤ now.nanos := by
  intro earlier hearlier
  have hforward := h.forward
  rw [clock_concat, hnow, Option.toList_some, List.pairwise_append] at hforward
  exact hforward.2.2 earlier hearlier now (List.mem_singleton.2 rfl)

end Timely

/-- Events are `recordedSince` in the order of the clock. -/
theorem recordedSince_sublist (key : String) (uses : List Use) :
    (recordedSince key uses).Sublist (clock uses) := by
  induction uses using List.reverseRecOn with
  | nil => exact .slnil
  | append_singleton uses use ih =>
    rw [recordedSince_concat, clock_concat]
    split
    · exact List.nil_sublist _
    · refine ih.append ?_
      cases use with
      | record sender now =>
        by_cases h : sender = key <;> simp [Use.event?, Use.now?, h]
      | reset target => exact .slnil
      | count sender now => exact List.nil_sublist _

/-! ### What is held -/

/-- Of the events `recordedSince` a sender last started anew, the earlier ones may be gone, if they have
left some window that has ended. The others stand in the queue. -/
structure Held (settings : QuotaSettings) (uses : List Use) : Prop where
  sorted : Fields.Sorted (performed settings uses)
  filled : ∀ entry ∈ performed settings uses, entry.2 ≠ []
  queue : ∀ key, ∃ gone, recordedSince key uses = gone ++ (performed settings uses).events key ∧
    ∀ t ∈ gone, ∃ now ∈ clock uses, t.nanos ≤ (windowStart settings now).nanos

theorem held_record (h : Held settings uses) (hspans : Spans settings now) (sender : String) :
    Held settings (uses ++ [.record sender now]) := by
  have hperformed : performed settings (uses ++ [.record sender now])
      = (performed settings uses).record sender now (windowStart settings now) := by
    rw [performed_concat, perform_record hspans]
  have hclock : clock (uses ++ [.record sender now]) = clock uses ++ [now] := clock_concat ..
  refine ⟨?_, ?_, fun key => ?_⟩
  · rw [hperformed]
    exact Counters.sorted_record h.sorted ..
  · intro entry hentry
    rw [hperformed] at hentry
    exact Counters.ne_nil_of_mem_record hentry
  · obtain ⟨gone, hqueue, hgone⟩ := h.queue key
    -- the sweep takes the front of the queue, and leaves it for the next window
    let swept := ((performed settings uses).events key).takeWhile fun t =>
      t.nanos ≤ (windowStart settings now).nanos
    refine ⟨gone ++ swept, ?_, ?_⟩
    · have hevent : ((Use.record sender now).event? key).toList
          = if sender = key then [now] else [] := by
        by_cases heq : sender = key <;> simp [Use.event?, heq]
      rw [recordedSince_concat, Use.forgets, if_neg Bool.false_ne_true, hevent, hperformed,
        Counters.events_record h.sorted, hqueue, List.append_assoc gone swept,
        ← List.append_assoc swept, List.takeWhile_append_dropWhile, List.append_assoc]
    · intro t ht
      rw [hclock]
      rcases List.mem_append.1 ht with ht | ht
      · obtain ⟨earlier, hearlier, hle⟩ := hgone t ht
        exact ⟨earlier, List.mem_append_left _ hearlier, hle⟩
      · exact ⟨now, List.mem_append_right _ (List.mem_singleton.2 rfl),
          by simpa using List.mem_takeWhile_imp ht⟩

theorem held_reset (h : Held settings uses) (target : Option String) :
    Held settings (uses ++ [.reset target]) := by
  have hperformed : performed settings (uses ++ [.reset target])
      = (performed settings uses).reset target :=
    performed_concat ..
  have hsublist : ((performed settings uses).reset target).Sublist (performed settings uses) := by
    cases target with
    | none => exact List.nil_sublist _
    | some name => exact List.filter_sublist
  have hclock : clock (uses ++ [.reset target]) = clock uses := by
    rw [clock_concat]
    exact List.append_nil _
  refine ⟨?_, ?_, fun key => ?_⟩
  · rw [hperformed]
    exact h.sorted.sublist hsublist
  · rw [hperformed]
    exact fun entry hentry => h.filled entry (hsublist.subset hentry)
  · rw [recordedSince_concat, hperformed, Counters.events_reset, hclock, Use.forgets]
    by_cases hforgets : target.all (Text.lowercase · = key) = true
    · rw [if_pos hforgets, if_pos hforgets]
      exact ⟨[], rfl, by simp⟩
    · rw [if_neg hforgets, if_neg hforgets]
      obtain ⟨gone, hqueue, hgone⟩ := h.queue key
      exact ⟨gone, by simpa [Use.event?] using hqueue, hgone⟩

theorem held_count (h : Held settings uses) (sender : String) (now : Timestamp) :
    Held settings (uses ++ [.count sender now]) := by
  have hperformed : performed settings (uses ++ [.count sender now]) = performed settings uses :=
    performed_concat ..
  refine ⟨?_, ?_, fun key => ?_⟩
  · rw [hperformed]
    exact h.sorted
  · rw [hperformed]
    exact h.filled
  · obtain ⟨gone, hqueue, hgone⟩ := h.queue key
    rw [hperformed]
    refine ⟨gone, ?_, fun t ht => ?_⟩
    · rw [recordedSince_concat, hqueue]
      exact List.append_nil _
    · obtain ⟨earlier, hearlier, hle⟩ := hgone t ht
      rw [clock_concat]
      exact ⟨earlier, List.mem_append_left _ hearlier, hle⟩

theorem held_run (h : Timely settings uses) : Held settings uses := by
  induction uses using List.reverseRecOn with
  | nil => exact ⟨.nil, by simp [performed], fun key => ⟨[], rfl, by simp⟩⟩
  | append_singleton uses use ih =>
    have hheld := ih h.init
    cases use with
    | record sender now => exact held_record hheld (h.spans_last rfl) sender
    | reset target => exact held_reset hheld target
    | count sender now => exact held_count hheld sender now

/-! ### What follows -/

namespace Held

theorem suffix (h : Held settings uses) (key : String) :
    (performed settings uses).events key <:+ recordedSince key uses := by
  obtain ⟨gone, hqueue, -⟩ := h.queue key
  exact ⟨gone, hqueue.symm⟩

theorem sublist (h : Held settings uses) (key : String) :
    ((performed settings uses).events key).Sublist (clock uses) :=
  (h.suffix key).sublist.trans (recordedSince_sublist key uses)

theorem ordered (h : Held settings uses) (htimely : Timely settings uses) (key : String) :
    ((performed settings uses).events key).Pairwise fun a b => a.nanos ≤ b.nanos :=
  htimely.forward.sublist (h.sublist key)

/-- What has gone from a queue is in no window that ends later, so `countAfter` does not miss it. -/
theorem countAfter_eq (h : Held settings uses) (key : String)
    (hearlier : ∀ earlier ∈ clock uses, earlier.nanos ≤ now.nanos) :
    (performed settings uses).countAfter key (windowStart settings now)
      = (recordedSince key uses).countP fun t => (windowStart settings now).nanos < t.nanos := by
  obtain ⟨gone, hqueue, hgone⟩ := h.queue key
  have hnone : gone.countP (fun t => (windowStart settings now).nanos < t.nanos) = 0 := by
    refine List.countP_eq_zero.2 fun t ht => ?_
    obtain ⟨earlier, hmem, hle⟩ := hgone t ht
    have hstart : (windowStart settings earlier).nanos ≤ (windowStart settings now).nanos :=
      start_le (hearlier earlier hmem) _
    simp only [decide_eq_true_eq]
    omega
  rw [hqueue, List.countP_append, hnone, Nat.zero_add, List.countP_eq_length_filter]
  rfl

/-- After `record`, the events but the new one are in the window that ends with it. -/
theorem lt_of_mem_record (h : Held settings uses) (htimely : Timely settings uses)
    {sender : String} {start t : Timestamp} {entry : String × List Timestamp}
    (hentry : entry ∈ (performed settings uses).record sender now start) (ht : t ∈ entry.2) :
    start.nanos < t.nanos ∨ t = now := by
  rw [← Counters.events_of_mem (Counters.sorted_record h.sorted ..) hentry,
    Counters.events_record h.sorted] at ht
  rcases List.mem_append.1 ht with ht | ht
  · exact .inl (Counters.lt_of_mem_dropWhile (h.ordered htimely entry.1) ht)
  · split at ht
    · exact .inr (List.mem_singleton.1 ht)
    · cases ht

/-- A window of no length has left all that has been recorded before: `sweep` keeps nothing. -/
theorem sweep_eq_nil (h : Held settings uses) (htimely : Timely settings uses) {start : Timestamp}
    (hearlier : ∀ earlier ∈ clock uses, earlier.nanos ≤ start.nanos) :
    (performed settings uses).sweep start = [] := by
  refine List.eq_nil_iff_forall_not_mem.2 fun entry hentry => ?_
  have hqueue : entry.2 = ((performed settings uses).events entry.1).dropWhile
      fun t => t.nanos ≤ start.nanos := by
    rw [← Counters.events_of_mem (Counters.sorted_sweep h.sorted start) hentry,
      Counters.events_sweep h.sorted]
  obtain ⟨t, ht⟩ := List.exists_mem_of_ne_nil _ (Counters.mem_sweep.1 hentry).1
  rw [hqueue] at ht
  have hlate := Counters.lt_of_mem_dropWhile (h.ordered htimely entry.1) ht
  have hearly := hearlier t ((h.sublist entry.1).subset ((List.dropWhile_sublist _).subset ht))
  omega

end Held

/-! ### The whole sequence -/

/-- The counters in the course of `uses`. -/
structure Exact (settings : QuotaSettings) (uses : List Use) : Prop where
  /-- A count is the number of events recorded since the sender last started anew that are later than
  the start of the window. -/
  counts : ∀ past sender now, past ++ [.count sender now] <+: uses →
    count settings (performed settings past) sender now = .ok
      ((recordedSince sender past).countP fun t => (windowStart settings now).nanos < t.nanos)
  /-- No sender is kept without events. -/
  filled : ∀ past, past <+: uses → ∀ entry ∈ performed settings past, entry.2 ≠ []
  /-- Every queue is in the order of time. -/
  ordered : ∀ past, past <+: uses → ∀ entry ∈ performed settings past,
    entry.2.Pairwise fun a b => a.nanos ≤ b.nanos
  /-- When an event has been recorded, all events that are stored are in the window. -/
  fresh : ∀ past sender now, past ++ [.record sender now] <+: uses → 0 < settings.windowSecs →
    ∀ entry ∈ performed settings (past ++ [.record sender now]), ∀ t ∈ entry.2,
      (windowStart settings now).nanos < t.nanos
  /-- In a window of no length it is the only one that is stored. -/
  single : ∀ past sender now, past ++ [.record sender now] <+: uses → settings.windowSecs = 0 →
    performed settings (past ++ [.record sender now]) = [(sender, [now])]

/-- **The sliding window is `Exact`.** Whatever is recorded, reset and counted, for whichever senders: if
the clock never goes backwards and every window that is asked for can be measured, then all counts are
right, and no queue is empty, out of order, or longer than the window. -/
theorem counts_exactly (h : Timely settings uses) : Exact settings uses := by
  constructor
  · intro past sender now hpast
    have htimely := h.of_prefix hpast
    have hheld := held_run htimely.init
    rw [count_of_spans (htimely.spans_last rfl), hheld.countAfter_eq sender (htimely.le_last rfl)]
  · intro past hpast
    exact (held_run (h.of_prefix hpast)).filled
  · intro past hpast entry hentry
    have htimely := h.of_prefix hpast
    have hheld := held_run htimely
    rw [← Counters.events_of_mem hheld.sorted hentry]
    exact hheld.ordered htimely entry.1
  · intro past sender now hpast hpos entry hentry t ht
    have htimely := h.of_prefix hpast
    have hheld := held_run htimely.init
    rw [performed_concat, perform_record (htimely.spans_last rfl)] at hentry
    rcases hheld.lt_of_mem_record htimely.init hentry ht with hlt | rfl
    · exact hlt
    · exact windowStart_lt hpos t
  · intro past sender now hpast hzero
    have htimely := h.of_prefix hpast
    have hheld := held_run htimely.init
    -- the window ends where it starts, and nothing has been recorded later
    have hsweep : (performed settings past).sweep (windowStart settings now) = [] := by
      refine hheld.sweep_eq_nil htimely.init fun earlier hearlier => ?_
      rw [windowStart_of_zero hzero]
      exact htimely.le_last rfl earlier hearlier
    rw [performed_concat, perform_record (htimely.spans_last rfl), Counters.record, hsweep]
    rfl

/-- An event leaves the window, one sender is forgotten, and another goes on: a case of
`counts_exactly`. -/
theorem counts_exactly_six :
    let settings : QuotaSettings := { windowSecs := 60 }
    let time (secs : Int) : Timestamp := Timestamp.laterSecs ⟨0, false⟩ secs
    let uses : List Use := [.record "a" (time 0), .record "b" (time 30), .record "a" (time 60),
      .reset (some "B"), .count "a" (time 61), .count "b" (time 61)]
    Timely settings uses ∧ Exact settings uses ∧
      recordedSince "a" uses = [time 0, time 60] ∧ recordedSince "b" uses = [] := by
  intro settings time uses
  have htimely : Timely settings uses := ⟨by decide +kernel, by decide +kernel⟩
  exact ⟨htimely, counts_exactly htimely, by decide +kernel, by decide +kernel⟩

/-- A window of no length does not reach the event it ends with, but that event is stored. -/
theorem stored_at_start :
    let settings : QuotaSettings := { windowSecs := 0 }
    let now : Timestamp := ⟨0, false⟩
    Timely settings [.record "a" now] ∧
      ¬ ∀ entry ∈ performed settings [.record "a" now], ∀ t ∈ entry.2,
        (windowStart settings now).nanos < t.nanos := by
  refine ⟨⟨?_, ?_⟩, ?_⟩ <;> decide +kernel

end Quota

end MailFilter
