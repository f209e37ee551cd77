/-
Rehearsals of a connection: commands in virtual time.
-/
import MailFilter.Milter.Link
import MailFilter.Rehearsal.Labels

namespace MailFilter.Milter.Link

variable {σ : Type}

/-- Takes a command a moment after the one before it, and has everything done that is left to do. -/
def tell (f : Filter σ) (c : Command) (l : Link σ) : List Packet × Link σ :=
  let (packets, l) := receive f c { l with filter := l.filter.elapse Rehearsal.tick }
  (packets, { l with filter := l.filter.settle f })

/-- Loses the connection and has everything done that is left to do. -/
def finish (f : Filter σ) (l : Link σ) : Link σ :=
  let l := l.close f
  { l with filter := Rehearsal.finish f l.filter }

/-- The sessions of a connection so far, in the order of their clients. -/
def sessionsSeen (known : List Uuid) (l : Link σ) : List Uuid :=
  l.session.toList.foldl Labels.note known

/-- The labels at the end: of messages only the records tell. -/
def closingLabels (sessions : List Uuid) (l : Link σ) : Labels :=
  let archive := l.filter.queue.store.archive
  let told := archive.messages.map (·.id) ++ archive.sessions.flatMap (·.messageIds)
  { sessions, messages := told.foldl Labels.note [] }

end MailFilter.Milter.Link
