/-
Changes that may fail part of the way.

What a change has done until it fails stays done, so a failed change need not leave its subject
alone: `Change.whole` is made completely or not at all, and `Change.andThen` puts changes in a row.
-/
import MailFilter.Session.Failure

namespace MailFilter

/-- A change of an `α`: what it yields or why it fails, and what it leaves behind. -/
abbrev Change (α β : Type) := α → Except Failure β × α

namespace Change

variable {α β : Type}

/-- A change by `f` that is made completely or not at all. -/
def whole (f : α → Except Failure α) : Change α Unit := fun a =>
  match f a with
  | .ok a => (.ok (), a)
  | .error e => (.error e, a)

/-- The change `g` after the change `f`, which must succeed; if it fails, what it has
left behind stays. -/
def andThen (f : Change α Unit) (g : Change α β) : Change α β := fun a =>
  match f a with
  | (.ok (), a) => g a
  | (.error e, a) => (.error e, a)

/-- A look at the subject with `f`: the subject stays as it is. -/
def look (f : α → β) : Change α β := fun a => (.ok (f a), a)

/-- Changes one after the other, with `andThen`, up to the first that fails. -/
def all : List (Change α Unit) → Change α Unit
  | [] => look fun _ => ()
  | f :: rest => f.andThen (all rest)

end Change

end MailFilter
