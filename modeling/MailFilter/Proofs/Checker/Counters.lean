/-
The counted events of senders.

Sweeping goes through all senders and drops events from the front of each queue; counting looks at the
events after a point in time. As long as the senders are in their order, so that each of them comes once,
a count from a point in time on never sees what a sweep up to that point has dropped.

* `sorted_sweep`, `sorted_record`: the senders stay in their order;
* `events_sweep`, `events_record`, `events_reset`: the events of each sender afterwards;
* `countAfter_record`: what counts after an event has been recorded.
-/
import MailFilter.Checker.Quota
import MailFilter.Proofs.Data.Fields

namespace MailFilter

/-! ### Counters -/

namespace Counters

variable {c : Counters} {sender : String} {cutoff start : Timestamp}

theorem events_of_mem (h : Fields.Sorted c) {entry : String × List Timestamp} (hentry : entry ∈ c) :
    c.events entry.1 = entry.2 := by
  rw [events, Fields.find?_of_mem h hentry, Option.getD_some]

/-- Of the senders, `sweep` drops none but those left without events. -/
theorem mem_sweep {entry : String × List Timestamp} :
    entry ∈ c.sweep cutoff ↔ entry.2 ≠ [] ∧ ∃ events, (entry.1, events) ∈ c ∧
      events.dropWhile (fun t => t.nanos ≤ cutoff.nanos) = entry.2 := by
  obtain ⟨key, rest⟩ := entry
  simp only [sweep, List.mem_filter, List.mem_map, Prod.mk.injEq, Prod.exists]
  constructor
  · rintro ⟨⟨k, events, hmem, rfl, hrest⟩, hne⟩
    exact ⟨by simpa using hne, events, hmem, hrest⟩
  · rintro ⟨hne, events, hmem, hrest⟩
    exact ⟨⟨key, events, hmem, rfl, hrest⟩, by simpa using hne⟩

theorem sorted_sweep (h : Fields.Sorted c) (cutoff : Timestamp) :
    Fields.Sorted (c.sweep cutoff) := by
  refine List.Pairwise.filter _ ?_
  rw [List.pairwise_map]
  exact h

theorem sorted_record (h : Fields.Sorted c) (sender : String) (now cutoff : Timestamp) :
    Fields.Sorted (c.record sender now cutoff) :=
  Fields.sorted_insert (sorted_sweep h cutoff) ..

/-- A `sweep` drops the same events from the front of every queue. -/
theorem events_sweep (h : Fields.Sorted c) (sender : String) (cutoff : Timestamp) :
    (c.sweep cutoff).events sender
      = (c.events sender).dropWhile fun t => t.nanos ≤ cutoff.nanos := by
  induction c with
  | nil => rfl
  | cons entry rest ih =>
    obtain ⟨key, events⟩ := entry
    obtain ⟨hfirst, hrest⟩ := List.pairwise_cons.1 h
    have hsweep : sweep ((key, events) :: rest) cutoff
        = (if (events.dropWhile fun t => t.nanos ≤ cutoff.nanos).isEmpty then sweep rest cutoff
          else (key, events.dropWhile fun t => t.nanos ≤ cutoff.nanos) :: sweep rest cutoff) := by
      simp only [sweep, List.map_cons, List.filter_cons]
      split <;> simp_all
    have ih := ih hrest
    rw [hsweep]
    by_cases hkey : key = sender
    · subst hkey
      -- a sender who is left without events does not come a second time
      have hnone : Fields.find? key (sweep rest cutoff) = none := by
        refine Fields.find?_eq_none fun entry hentry => ?_
        obtain ⟨-, events', hmem, -⟩ := mem_sweep.1 hentry
        exact fun heq => String.lt_irrefl _ (heq ▸ hfirst _ hmem)
      split
      · next hempty =>
        rw [Counters.events, hnone]
        simpa [Counters.events, Fields.find?] using hempty
      · simp [Counters.events, Fields.find?]
    · split
      · simpa [Counters.events, Fields.find?, hkey] using ih
      · simpa [Counters.events, Fields.find?, hkey] using ih

/-- An event that `record` adds comes last with its sender, after a sweep of everybody. -/
theorem events_record (h : Fields.Sorted c) (sender other : String) (now cutoff : Timestamp) :
    (c.record sender now cutoff).events other
      = ((c.events other).dropWhile fun t => t.nanos ≤ cutoff.nanos) ++
        if sender = other then [now] else [] := by
  rw [record, events, Fields.find?_insert]
  by_cases heq : sender = other
  · subst heq
    rw [if_pos rfl, if_pos rfl, Option.getD_some, events_sweep h]
  · rw [if_neg heq, if_neg heq, List.append_nil]
    exact events_sweep h other cutoff

/-- Events that are swept away do not count from the end of the sweep on. -/
theorem filter_dropWhile {cutoff start : Timestamp} (h : cutoff.nanos ≤ start.nanos)
    (events : List Timestamp) :
    ((events.dropWhile fun t => t.nanos ≤ cutoff.nanos).filter fun t => start.nanos < t.nanos)
      = events.filter fun t => start.nanos < t.nanos := by
  induction events with
  | nil => rfl
  | cons t rest ih =>
    by_cases ht : t.nanos ≤ cutoff.nanos
    · have hnot : ¬ start.nanos < t.nanos := by omega
      rw [List.dropWhile_cons_of_pos (by simpa using ht), ih,
        List.filter_cons_of_neg (by simpa using hnot)]
    · rw [List.dropWhile_cons_of_neg (by simpa using ht)]

/-- What a sweep leaves of a queue in its order is later than the `cutoff`. -/
theorem lt_of_mem_dropWhile {t cutoff : Timestamp} {events : List Timestamp}
    (h : events.Pairwise fun a b => a.nanos ≤ b.nanos)
    (hmem : t ∈ events.dropWhile fun t => t.nanos ≤ cutoff.nanos) : cutoff.nanos < t.nanos := by
  induction events with
  | nil => cases hmem
  | cons first rest ih =>
    obtain ⟨hfirst, hrest⟩ := List.pairwise_cons.1 h
    by_cases hle : first.nanos ≤ cutoff.nanos
    · rw [List.dropWhile_cons_of_pos (by simpa using hle)] at hmem
      exact ih hrest hmem
    · rw [List.dropWhile_cons_of_neg (by simpa using hle)] at hmem
      rcases List.mem_cons.1 hmem with rfl | hmem
      · omega
      · have hlater := hfirst t hmem
        omega

/-- No sender is kept without events after a sweep, and the one of a `record` has its event. -/
theorem ne_nil_of_mem_record {entry : String × List Timestamp} {now : Timestamp}
    (h : entry ∈ c.record sender now cutoff) : entry.2 ≠ [] := by
  rcases Fields.mem_insert h with rfl | h
  · simp
  · exact (mem_sweep.1 h).1

/-- With `reset` one sender or all are forgotten, and the others are left as they are. -/
theorem events_reset (c : Counters) (sender : String) (target : Option String) :
    (c.reset target).events sender
      = if target.all (Text.lowercase · = sender) then [] else c.events sender := by
  cases target with
  | none => rfl
  | some name =>
    rw [reset, events, Fields.find?_filter_ne]
    by_cases h : Text.lowercase name = sender <;> simp [h, events]

/-- What counts after an event has been recorded, in `countAfter`: what counted before,
and the event. -/
theorem countAfter_record (h : Fields.Sorted c) (sender other : String) {now cutoff start : Timestamp}
    (hstart : cutoff.nanos ≤ start.nanos) :
    (c.record sender now cutoff).countAfter other start
      = c.countAfter other start + if sender = other ∧ start.nanos < now.nanos then 1 else 0 := by
  rw [countAfter, events_record h, List.filter_append, List.length_append, filter_dropWhile hstart,
    countAfter]
  by_cases heq : sender = other <;> by_cases hlt : start.nanos < now.nanos <;> simp [heq, hlt]

end Counters

end MailFilter
