/-
What a ruling does to the message that it is recorded on.

The message is still open then, so every change to its headers is made, and the verdict is recorded.

* `mutate_eq`: one change acts on the lines of the headers as on plain ones;
* `conclude_eq`: the changes that the message has not had yet are made in order, and nothing else of it
  changes but its verdict.
-/
import MailFilter.Filter.Callback
import MailFilter.Proofs.Message.Headers

namespace MailFilter

namespace Message

variable {m : Message}

/-- A change to the headers of an open message is made by `mutate`, and acts on its lines as
`Lines.apply`. -/
theorem mutate_eq (hopen : m.verdict = none) (mutation : HeaderMutation) :
    ∃ headers, m.mutate mutation = .ok { m with headers } ∧
      (Header.Ranked m.headers →
        Header.Ranked headers ∧ Header.lines headers = m.lines.apply mutation) := by
  cases mutation with
  | add key value =>
    obtain ⟨headers, hadd, hlines, hr⟩ := addHeader_eq hopen key value
    refine ⟨headers, ?_, fun h => ⟨hr h, hlines⟩⟩
    rw [mutate, hadd]
    rfl
  | delete key index =>
    by_cases hr : Header.Ranked m.headers
    · obtain ⟨headers, hdel, hlines, hr'⟩ := deleteHeader_eq hopen hr key index
      refine ⟨headers, ?_, fun _ => ⟨hr', hlines⟩⟩
      rw [mutate, hdel]
      rfl
    · -- the change is made whether or not the places are right
      have hfin : m.isFinalized = false := by simp [isFinalized, hopen]
      simp only [mutate, deleteHeader, whenOpen, hfin]
      cases deleteOccurrence key index m.headers with
      | some headers => exact ⟨headers, rfl, fun h => absurd h hr⟩
      | none => exact ⟨m.headers, rfl, fun h => absurd h hr⟩

/-- Changes to the headers of an open message are all made, in order: they act on its lines as
`Lines.applyAll`. -/
theorem all_mutate_eq (hopen : m.verdict = none) (mutations : List HeaderMutation) :
    ∃ headers,
      Change.all (mutations.map fun change => Change.whole fun m => m.mutate change) m
        = (.ok (), { m with headers }) ∧
      (Header.Ranked m.headers →
        Header.Ranked headers ∧ Header.lines headers = m.lines.applyAll mutations) := by
  induction mutations generalizing m with
  | nil => exact ⟨m.headers, rfl, fun h => ⟨h, rfl⟩⟩
  | cons mutation rest ih =>
    obtain ⟨headers₁, h₁, hr₁⟩ := mutate_eq hopen mutation
    obtain ⟨headers₂, h₂, hr₂⟩ := ih (m := { m with headers := headers₁ }) hopen
    refine ⟨headers₂, ?_, fun h => ?_⟩
    · rw [List.map_cons, Change.all, Change.andThen, Change.whole, h₁]
      exact h₂
    · obtain ⟨hranked, hlines⟩ := hr₁ h
      obtain ⟨hranked', hlines'⟩ := hr₂ hranked
      refine ⟨hranked', ?_⟩
      rw [hlines', lines, hlines]
      rfl

end Message

namespace Ruling

variable {r : Ruling} {m : Message}

/-- The changes to the headers that the message has not had yet, as `hasAdded` tells. -/
def outstanding (r : Ruling) (m : Message) : List HeaderMutation :=
  r.mutations.filter fun change => !m.hasAdded change

/-- A `Ruling` is recorded by `conclude` on the open message that it is about. -/
theorem conclude_eq (hopen : m.verdict = none) (hid : m.id = r.ctx.message.id) :
    ∃ headers,
      r.conclude m = (.ok ({ m with headers, verdict := some r.verdict } : Message).toRecord,
        { m with headers, verdict := some r.verdict }) ∧
      (Header.Ranked m.headers → Header.lines headers = m.lines.applyAll (r.outstanding m)) := by
  obtain ⟨headers, hall, hlines⟩ := Message.all_mutate_eq hopen (r.outstanding m)
  refine ⟨headers, ?_, fun h => (hlines h).2⟩
  have hrewrite : r.rewrite m = (.ok (), { m with headers }) := hall
  have hfin : ({ m with headers } : Message).finalize r.verdict
      = .ok { m with headers, verdict := some r.verdict } := by
    simp [Message.finalize, Message.whenOpen, Message.isFinalized, hopen]
  rw [conclude, if_pos hid]
  simp only [Change.andThen, hrewrite, Change.whole, hfin, Change.look]

/-- A `Ruling` is not recorded on any other message. -/
theorem conclude_other (hid : m.id ≠ r.ctx.message.id) :
    r.conclude m = (.error (.noMessage .eom), m) := by
  rw [conclude, if_neg hid]

end Ruling

end MailFilter
