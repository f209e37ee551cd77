/-
Paths to single settings, such as `server.hostname` or `headers[0].key`, and how a setting is put
into the settings read so far.

Keys of tables do not depend on case: they are kept in small letters.
-/
import MailFilter.Data.Basic
import MailFilter.Number.Reading
import MailFilter.Text.Lowercase

namespace MailFilter.Config

/-- One step on a path, of which `readSteps` reads many. -/
inductive PathStep where
  | key (name : String)
  /-- The item at a place; places before zero count from the end. -/
  | index (place : Int)
  deriving DecidableEq, Repr

namespace PathStep

/-! ### Reading -/

/-- A character of a key on a path. -/
def isKeyChar (c : Char) : Bool :=
  c.isAlphanum || c = ' ' || c = '_' || c = '-'

/-- Reads a key, which consists of characters with `isKeyChar`. -/
def readKey (cs : List Char) : Option (PathStep × List Char) :=
  let name := cs.takeWhile isKeyChar
  if name.isEmpty then none
  else some (.key (String.ofList name), cs.dropWhile isKeyChar)

/-- A blank between brackets. -/
def isSpace (c : Char) : Bool :=
  c = ' ' || c = '\t'

/-- Reads a place up to its closing bracket. -/
def readPlace (cs : List Char) : Option (PathStep × List Char) := do
  let cs := cs.dropWhile isSpace
  let (negative, cs) := match cs with
    | '-' :: rest => (true, rest)
    | _ => (false, cs)
  let (digits, rest) := Number.spanDigits cs
  guard (!digits.isEmpty)
  let n ← Number.digitsValue? digits
  let place : Int := if negative then -n else n
  guard (Number.minInteger ≤ place && place ≤ Number.maxInteger)
  match rest.dropWhile isSpace with
  | ']' :: rest => return (.index place, rest)
  | _ => none

/-- Reads steps after the first one, as many as there may be: each is a key after a point, or a place in
brackets. -/
def readSteps : Nat → List Char → Option (List PathStep)
  | _, [] => some []
  | steps + 1, '.' :: cs => do
    let (step, rest) ← readKey cs
    return step :: (← readSteps steps rest)
  | steps + 1, '[' :: cs => do
    let (step, rest) ← readPlace cs
    return step :: (← readSteps steps rest)
  | _, _ => none

/-- The steps of a path, read by `readKey` and `readSteps`. A text that is no path is a
key as a whole. -/
def ofText (s : String) : List PathStep :=
  let path := (readKey s.toList).bind fun (first, rest) =>
    (readSteps rest.length rest).map fun steps => first :: steps
  path.getD [.key s]

end PathStep

/-! ### Changing -/

/-- The fields of a table; anything else gives way to an empty one. -/
def fieldsOf : Json → List (String × Json)
  | .object fields => fields
  | _ => []

/-- The items of a list; anything else gives way to an empty one. -/
def itemsOf : Json → List Json
  | .list items => items
  | _ => []

mutual

/-- Puts a value under the `key` of a table. A table is not replaced but filled. -/
def put (key : String) (value : Json) (table : Json) : Json :=
  let name := Text.lowercase key
  match value with
  | .object fields =>
    let inner := (Fields.find? name (fieldsOf table)).getD (.object [])
    .object (Fields.insert name (putAll fields inner) (fieldsOf table))
  | _ => .object (Fields.insert name value (fieldsOf table))

/-- Puts several values into a table, each by `put`. -/
def putAll (fields : List (String × Json)) (table : Json) : Json :=
  match fields with
  | [] => table
  | (key, value) :: rest => putAll rest (put key value table)

end

/-- Changes the item at the `place` of a list, which is made long enough. A place before the first item
is left alone. -/
def changeItem (place : Int) (change : Json → Json) (items : List Json) : List Json :=
  if items.length + place < 0 then items
  else
    let n := (if place < 0 then items.length + place else place).toNat
    let items := items ++ List.replicate (n + 1 - items.length) .null
    items.modify n change

/-- Puts a value at the end of a path, with `put` and `changeItem` on the way. What is in the way of the
path is replaced. -/
def putAt : List PathStep → Json → Json → Json
  | [], value, _ => value
  | [.key name], value, j => put name value j
  | .key name :: path, value, j =>
    let inner := (Fields.find? name (fieldsOf j)).getD .null
    .object (Fields.insert name (putAt path value inner) (fieldsOf j))
  | .index place :: path, value, j => .list (changeItem place (putAt path value) (itemsOf j))

/-- Puts settings into those read so far with `putAt`; the key of each is a path. -/
def overlay (settings : List (String × Json)) (j : Json) : Json :=
  settings.foldl (fun j s => putAt (PathStep.ofText s.1) s.2 j) j

end MailFilter.Config
