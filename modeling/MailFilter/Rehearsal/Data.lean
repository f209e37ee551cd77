/-
What is seen in rehearsals, as data.
-/
import MailFilter.Rehearsal.Reading

namespace MailFilter

/-- An `Event` of the journal as data. -/
def Event.toData : Event → Json
  | .started module => .ofTexts ["init", module]
  | .stopped module => .ofTexts ["stop", module]
  | .checked module recipients => .list [.text "check", .text module, .ofNat recipients]
  | .cancelled module => .ofTexts ["cancelled", module]
  | .asked module recipient helo =>
    .list [.text "recipient", .text module, .text recipient, .ofText? helo]
  | .followedUp module token action => .ofTexts ["callback", module, token, action.name]
  | .delivered module channel payload =>
    .list [.text "ipc", .text module, .text channel, payload]

/-- The events of a `Journal` as data. -/
def Journal.toData (j : Journal) : Json :=
  .list (j.events.map Event.toData)

/-- The lines of the metrics that do not depend on the clock, without explanations. -/
def Metrics.timelessData (m : Metrics) : Json :=
  let shows (line : String) : Bool :=
    !line.startsWith "#" && !Text.occursIn "_seconds_bucket\x7b".toList line.toList &&
      !Text.occursIn "_seconds_sum\x7b".toList line.toList
  .ofTexts ((Exposition.lines m.families).filter shows)

/-- A reply as data. -/
def Reply.toData : Reply → Json
  | .proceed => .text "continue"
  | .tempfail text => .ofTexts ["tempfail", text]
  | .reject text => .ofTexts ["reject", text]

/-- The answer to a callback as data: at the end of a message with the changes to the headers. -/
def Answer.toData (c : Callback) (a : Answer) : Json :=
  match c with
  | .eom _ => .sortedObject [("reply", a.reply.toData),
      ("mutations", .list (a.mutations.map HeaderMutation.toData))]
  | _ => a.reply.toData

/-- Where a session stands as data. -/
def Standing.toData (s : Standing) : Json :=
  .list [.text s.position.name, .ofNat s.messages, .bool s.isOpen]

/-- The answer of a recipient check as data. -/
def RecipientVerdict.toData (v : RecipientVerdict) : Json :=
  .ofTexts [v.action.name, v.message]

/-- Values in the order of their keys. -/
def inOrder (entries : List (String × Json)) : Json :=
  .list ((entries.mergeSort fun a b => a.1 ≤ b.1).map (·.2))

/-- An ending as data. -/
def Ending.toData (l : Labels) (e : Ending) : String × Json :=
  let label := l.inText e.session.text
  (label ++ "\n" ++ e.module,
    .list [.text label, .text e.module, .bool e.pruned, .ofNat e.messages])

/-- What is left to tell of a rehearsal with scripted checkers once it is over: its records, its metrics
and the `Journal`. -/
def FilterState.closingData {τ : Type} (l : Labels) (st : FilterState (τ × Journal)) :
    List (String × Json) :=
  let archive := st.queue.store.archive
  let sessions := archive.sessions.map fun r =>
    (l.inText r.id.text, l.inData r.timelessData)
  [("log", l.inData st.memory.2.toData),
    ("messages", .list (archive.messages.map fun r => l.inData r.timelessData)),
    ("sessions", inOrder sessions),
    ("disconnects", inOrder (st.memory.2.endings.map (Ending.toData l))),
    ("metrics", st.metrics.timelessData)]

end MailFilter
