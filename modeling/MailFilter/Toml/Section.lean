/-
The tables of a TOML document while it is being read.

A table comes from a header of its own, is implied by the header of a table within it, or comes from a
key of several parts. How it came about decides what may still be added to it: a header may take up
an implied table once, and keys of several parts only add to tables that no header has made.
-/
import MailFilter.Data.Basic

namespace MailFilter.Toml

/-- How a table has come about. -/
inductive Origin where
  | header
  | implied
  /-- By a key of several parts. -/
  | dotted
  deriving DecidableEq, Repr

/-- What stands under a key. -/
inductive Entry where
  /-- A value, which is complete: nothing is ever added to it. -/
  | value (value : Json)
  | table (origin : Origin) (entries : List (String × Entry))
  /-- A list of tables that each have a header, the last one first. -/
  | tables (items : List (List (String × Entry)))

/-- The entries of a table, in the order of their keys. -/
abbrev Section := List (String × Entry)

namespace Entry

mutual

/-- An `Entry` as data. -/
def toData : Entry → Json
  | value v => v
  | table _ entries => .object (entriesToData entries)
  | tables items => .list (itemsToData items).reverse

def entriesToData : List (String × Entry) → List (String × Json)
  | [] => []
  | (key, entry) :: rest => (key, toData entry) :: entriesToData rest

def itemsToData : List (List (String × Entry)) → List Json
  | [] => []
  | entries :: rest => .object (entriesToData entries) :: itemsToData rest

end

end Entry

namespace Section

/-- Changes the table at the end of a path, in whose place there must be no value. Tables that are
missing on the way are made; of a list of tables the last one is meant. -/
def within (dotted : Bool) (change : Origin → Section → Option Section) :
    List String → Origin → Section → Option Section
  | [], origin, s => change origin s
  | key :: path, _, s =>
    let made : Origin := if dotted then .dotted else .implied
    match Fields.find? key s with
    | none => (within dotted change path made []).map fun inner =>
        Fields.insert key (.table made inner) s
    | some (.table origin inner) =>
      if dotted && origin = .header then none
      else (within dotted change path origin inner).map fun inner =>
        Fields.insert key (.table origin inner) s
    | some (.tables (last :: before)) =>
      (within dotted change path .header last).map fun last =>
        Fields.insert key (.tables (last :: before)) s
    | some _ => none

/-- Adds a value under a `key` that is not taken. -/
def addValue (key : String) (v : Json) (s : Section) : Option Section :=
  match Fields.find? key s with
  | none => some (Fields.insert key (.value v) s)
  | some _ => none

/-- Adds a value under a key of one or several parts with `within` and `addValue`: the parts before the
last one name a table that has come about by such keys only. -/
def addPair (path : List String) (key : String) (v : Json) :
    Origin → Section → Option Section :=
  within true (fun origin s =>
    if decide (origin = .dotted) == path.isEmpty then none else addValue key v s) path

/-- Opens the table of a header under `key`, the last part of its name. -/
def openTable (key : String) (s : Section) : Option Section :=
  match Fields.find? key s with
  | none => some (Fields.insert key (.table .header []) s)
  | some (.table .implied inner) => some (Fields.insert key (.table .header inner) s)
  | some _ => none

/-- Opens the next one of a list of tables under `key`, the last part of its name. -/
def openNext (key : String) (s : Section) : Option Section :=
  match Fields.find? key s with
  | none => some (Fields.insert key (.tables [[]]) s)
  | some (.tables items) => some (Fields.insert key (.tables ([] :: items)) s)
  | some _ => none

end Section

end MailFilter.Toml
