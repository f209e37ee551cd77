/-
Reading the fields of structured data.

A field that holds nothing counts as absent. What cannot be read is reported by the name of the
field.
-/
import MailFilter.Data.Basic
import MailFilter.Fault

namespace MailFilter

/-- Why something could not be read. -/
inductive ReadFault where
  | field (name : String)
  | settings
  | action
  | identifier
  | record
  /-- It could be read but not made ready. -/
  | refused (fault : Fault)

/-- Reading may fail, with a `ReadFault`. -/
abbrev Read := Except ReadFault

/-- What has been made ready, or the `Fault`. -/
def Read.ofFault {α : Type} : Except Fault α → Read α :=
  Except.mapError .refused

namespace Data

/-- The field `key`, if it is there and holds something. -/
def present? (j : Json) (key : String) : Option Json :=
  match j.field? key with
  | some null => none
  | other => other

/-- The value of the field `key`, or a `default` if there is none. -/
def valueOr (j : Json) (key : String) (default : Json) : Json :=
  (present? j key).getD default

/-- Reads the field `key`, which must be there. -/
def require {α : Type} (read : Json → Option α) (j : Json) (key : String) : Read α :=
  match (present? j key).bind read with
  | some a => .ok a
  | none => .error (.field key)

/-- Reads the field `key`, which may be absent. -/
def allow {α : Type} (read : Json → Option α) (j : Json) (key : String) : Read (Option α) :=
  match present? j key with
  | none => .ok none
  | some value =>
    match read value with
    | some a => .ok (some a)
    | none => .error (.field key)

/-- Reads the field `key`, which has a `default`. -/
def allowOr {α : Type} (read : Json → Option α) (default : α) (j : Json) (key : String) : Read α :=
  (allow read j key).map fun a => a.getD default

/-! ### Kinds of values -/

/-- The text of a text. -/
def asText? : Json → Option String
  | text s => some s
  | _ => none

/-- The items of a list. -/
def asList? : Json → Option (List Json)
  | list items => some items
  | _ => none

/-- The texts of a list of texts, each by `asText?`. -/
def asTexts? (j : Json) : Option (List String) :=
  (asList? j).bind fun items => items.mapM asText?

/-- The truth value. -/
def asBool? : Json → Option Bool
  | bool b => some b
  | _ => none

/-- The whole number. -/
def asInt? : Json → Option Int
  | int n => some n
  | _ => none

/-- The natural number; a negative one counts as zero. -/
def asNat? (j : Json) : Option Nat :=
  (asInt? j).map Int.toNat

/-- The fields of an object. -/
def asObject? : Json → Option (List (String × Json))
  | object fields => some fields
  | _ => none

/-- The number; one that is not finite is given as a word. -/
def asFloat? : Json → Option Float
  | real x => some x
  | int n => some (Float.ofInt n)
  | text "NaN" => some (0.0 / 0.0)
  | text "inf" => some (1.0 / 0.0)
  | text "-inf" => some (-1.0 / 0.0)
  | _ => none

/-- A number, or the word for one that is not finite. -/
def ofFloat (x : Float) : Json :=
  if x.isFinite then real x else text (Number.plainStyle.text x)

/-- Spells out the numbers that are not finite, with `ofFloat`. -/
def spelled : Json → Json :=
  replaceReals ofFloat

end Data

end MailFilter
