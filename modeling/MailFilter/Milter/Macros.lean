/-
Macros: named values that the mail server attaches to the stages of a connection.

A macro is looked up in the latest stage that has one of its name. A command that opens a stage
forgets what was attached to the stages after it.
-/
namespace MailFilter.Milter

/-- The stages that macros are attached to, in their order. -/
inductive MacroStage where
  | connect | helo | mail | rcpt | data | eoh | eom
  deriving DecidableEq, Repr

namespace MacroStage

/-- All stages, in order. -/
def all : List MacroStage :=
  [connect, helo, mail, rcpt, data, eoh, eom]

/-- The place of a stage in the order of `all`. -/
def rank : MacroStage → Nat
  | connect => 0
  | helo => 1
  | mail => 2
  | rcpt => 3
  | data => 4
  | eoh => 5
  | eom => 6

/-- The number of a stage in a negotiation. -/
def number : MacroStage → Nat
  | eoh => 6
  | eom => 5
  | stage => stage.rank

/-- The command letter of a stage. -/
def letter : MacroStage → String
  | connect => "C"
  | helo => "H"
  | mail => "M"
  | rcpt => "R"
  | data => "T"
  | eoh => "N"
  | eom => "E"

/-- The stage of a command `letter`. -/
def ofLetter? (s : String) : Option MacroStage :=
  all.find? fun stage => stage.letter = s

end MacroStage

/-- The macros of a connection: for each stage at most one set. -/
structure Macros where
  sets : List (MacroStage × List (String × String)) := []

namespace Macros

/-- The other way to write the name of a macro of one letter: without braces or with them. -/
def otherName? (name : String) : Option String :=
  match name.toList with
  | [c] => some (String.ofList ['\x7b', c, '\x7d'])
  | ['\x7b', c, '\x7d'] => some (String.ofList [c])
  | _ => none

/-- The value of the name in the `set`; of several the last counts. -/
def valueIn? (set : List (String × String)) (name : String) : Option String :=
  (set.reverse.find? fun entry => entry.1 = name).map (·.2)

/-- Attaches a `set` to a `stage`, in place of the one it had. -/
def insert (stage : MacroStage) (set : List (String × String)) (m : Macros) : Macros where
  sets := (stage, set) :: m.sets.filter fun entry => entry.1 ≠ stage

/-- Forgets what is attached to the stages after `stage`. -/
def clearAfter (stage : MacroStage) (m : Macros) : Macros where
  sets := m.sets.filter fun entry => entry.1.rank ≤ stage.rank

/-- What is attached to a stage. -/
def at? (stage : MacroStage) (m : Macros) : Option (List (String × String)) :=
  (m.sets.find? fun entry => entry.1 = stage).map (·.2)

/-- The value of the name at the `stage`, under either way to write it: `otherName?` is
the second one. -/
def findAt? (name : String) (stage : MacroStage) (m : Macros) : Option String :=
  (m.at? stage).bind fun set =>
    valueIn? set name <|> (otherName? name).bind (valueIn? set)

/-- The value of a macro, by `findAt?` at the last stage that has one; an empty one counts as absent. -/
def find? (name : String) (m : Macros) : Option String :=
  (MacroStage.all.reverse.findSome? fun stage => m.findAt? name stage).filter (!·.isEmpty)

end Macros

end MailFilter.Milter
