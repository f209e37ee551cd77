/-
Sender quotas: how many messages a sender may pass within a sliding window.

An event is counted for a sender when a message has finally been permitted, and falls out of the
window once it is as old as the window is long.
-/
import MailFilter.Checker.Basic
import MailFilter.Config.Basic
import MailFilter.Text.Lowercase

namespace MailFilter

/-- The counted events of each sender, earliest first. No sender is kept without events. -/
abbrev Counters := List (String × List Timestamp)

namespace Counters

/-- The events of a sender; there are none if `c` has no entry for it. -/
def events (c : Counters) (sender : String) : List Timestamp :=
  (Fields.find? sender c).getD []

/-- How many events of a sender are later than `cutoff`. -/
def countAfter (c : Counters) (sender : String) (cutoff : Timestamp) : Nat :=
  ((c.events sender).filter fun t => cutoff.nanos < t.nanos).length

/-- Drops the events up to `cutoff` from the front of each queue, and the senders left with
none. -/
def sweep (c : Counters) (cutoff : Timestamp) : Counters :=
  (c.map fun (sender, events) => (sender, events.dropWhile fun t => t.nanos ≤ cutoff.nanos)).filter
    fun entry => !entry.2.isEmpty

/-- Counts an event at `now` for a sender, after a `sweep` of everything up to `cutoff`. -/
def record (c : Counters) (sender : String) (now cutoff : Timestamp) : Counters :=
  let c := c.sweep cutoff
  Fields.insert sender (c.events sender ++ [now]) c

/-- Forgets one sender, whose name is put in small letters as in `senderKey`, or all of them. -/
def reset (c : Counters) : Option String → Counters
  | some sender => c.filter fun entry => entry.1 ≠ Text.lowercase sender
  | none => []

end Counters

namespace Quota

/-! ### The window -/

/-- The longest window that has a length in milliseconds. `window` takes no longer one. -/
def maxWindowSecs : Nat := 9223372036854775

/-- The earliest point in time that the calendar knows. `cutoff` goes back no further. -/
def earliest : Timestamp :=
  { nanos := Timestamp.daysTo Timestamp.years.1 1 1 * 86400 * Timestamp.second }

/-- The length of a window in seconds; one above `maxWindowSecs` is a panic. -/
def window (settings : QuotaSettings) : Except Panic Nat :=
  if settings.windowSecs ≤ maxWindowSecs then .ok settings.windowSecs
  else .error ⟨some "TimeDelta::seconds out of bounds"⟩

/-- The start of the window that ends at `now`; one before the calendar begins is a panic. -/
def cutoff (now : Timestamp) (windowSecs : Nat) : Except Panic Timestamp :=
  let start := now.laterSecs (-windowSecs)
  if earliest.nanos ≤ start.nanos then .ok start
  else .error ⟨some "`DateTime - TimeDelta` overflowed"⟩

/-- How many messages of a sender count at `now`: `countAfter` the start of the window. -/
def count (settings : QuotaSettings) (c : Counters) (sender : String) (now : Timestamp) :
    Except Panic Nat := do
  let start ← cutoff now (← window settings)
  return c.countAfter sender start

/-! ### The checker -/

/-- The name under which a sender is counted: its `Address.text` in small letters. -/
def senderKey (sender : Address) : String :=
  Text.lowercase sender.text

/-- The facts that every result of the quotas has: the `count` and the limit. -/
def withCounts (settings : QuotaSettings) (count : Nat) (r : CheckResult Float) :
    CheckResult Float :=
  (r.withFact "count" (.ofNat count)).withFact "limit" (.ofNat settings.maxMessages)

/-- The opinion on a sender of whom `count` messages count. One below the limit is asked for again after
the verdict: its `followUps` name the sender. -/
def opinion (settings : QuotaSettings) (key : String) (count : Nat) : CheckResult Float :=
  if settings.maxMessages ≤ count then
    withCounts settings count { CheckResult.new .tempfail settings.score with
      message := settings.message }
  else withCounts settings count { CheckResult.permit with followUps := [key] }

/-- How the check of a message ends: with `opinion`, or with the panic of `count`. The null sender has no
quota. -/
def outcome (settings : QuotaSettings) (c : Counters) (sender : Address) (now : Timestamp) :
    CheckOutcome :=
  if sender.isNull then .abstained
  else
    let key := senderKey sender
    match count settings c key now with
    | .ok n => .opinion (opinion settings key n)
    | .error p => .panicked p

/-- Counts a message that has been permitted, by `record`. This is what the follow-up does. -/
def settle (settings : QuotaSettings) (key : String) (action : Action) (now : Timestamp)
    (c : Counters) : Counters :=
  if action = .permit then
    match window settings >>= cutoff now with
    | .ok start => c.record key now start
    | .error _ => c
  else c

/-- The sender that a message to the reset channel names, for `reset`. -/
def resetTarget (payload : Json) : Option String :=
  match payload.field? "sender" with
  | some (.text s) => some s
  | _ => none

/-- The sender quotas as a checker: `outcome` for a message, `settle` once there is a verdict. -/
def checker (settings : QuotaSettings) : Checker Counters where
  name := "quotas"
  enabled := settings.enabled
  check ctx now c := ({ outcome := outcome settings c ctx.message.sender now }, c)
  followUp key action now := settle settings key action now
  ipc := [⟨"quotas.reset", fun payload c => (.ok (), c.reset (resetTarget payload))⟩]

end Quota

end MailFilter
