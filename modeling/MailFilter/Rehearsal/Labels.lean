/-
Labels in place of identifiers: identifiers differ from run to run, labels do not.
-/
import MailFilter.Data.Basic
import MailFilter.Rehearsal.Basic
import MailFilter.Text.Substitute

namespace MailFilter

/-- The sessions and messages seen so far, each in the order in which they were first seen. -/
structure Labels where
  sessions : List Uuid := []
  messages : List Uuid := []

namespace Labels

/-- Adds an identifier unless it is among `ids`. -/
def note (ids : List Uuid) (id : Uuid) : List Uuid :=
  if ids.contains id then ids else ids ++ [id]

/-- The labels once something more has been seen, with `note` for each identifier. -/
def see (l : Labels) (seen : Sighting) : Labels where
  sessions := match seen.report with
    | .opened id => note l.sessions id
    | _ => l.sessions
  messages := seen.messages.foldl note l.messages

/-- Identifiers with their labels: the `letter` and a number. -/
def numbered (letter : String) (ids : List Uuid) : List (Uuid × String) :=
  ids.zipIdx.map fun (id, n) => (id, letter ++ toString n)

/-- All identifiers with their labels, `numbered` by kind. -/
def all (l : Labels) : List (Uuid × String) :=
  numbered "s" l.sessions ++ numbered "m" l.messages

/-- The session of a label. -/
def session? (l : Labels) (label : String) : Option Uuid :=
  ((numbered "s" l.sessions).find? fun entry => entry.2 = label).map (·.1)

/-- Puts labels into a text, for the identifiers in `all`. -/
def inText (l : Labels) (s : String) : String :=
  l.all.foldl (fun s (id, label) =>
    Text.substitute id.simple label (Text.substitute id.text label s)) s

/-- Puts labels into data, by `inText` into every text of it. -/
def inData (l : Labels) (j : Json) : Json :=
  j.mapTexts l.inText

end Labels

end MailFilter
