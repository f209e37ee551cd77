/-
Structured data: what audit records hold, what checkers exchange and what settings are read from.
-/
import MailFilter.Data.Fields
import MailFilter.Number.Score

namespace MailFilter

/-- A value of structured data with real numbers from `ρ`. -/
inductive Data (ρ : Type) where
  | null
  | bool (value : Bool)
  | int (value : Int)
  | real (value : ρ)
  | text (value : String)
  | list (items : List (Data ρ))
  | object (fields : List (String × Data ρ))

/-- Structured `Data` with floating-point numbers. -/
abbrev Json := Data Float

namespace Data

variable {ρ : Type}

instance : Inhabited (Data ρ) := ⟨null⟩

/-- A score as data; one that is no finite number is left out. -/
def ofScore [Score ρ] (x : ρ) : Data ρ :=
  if Score.isFinite x then real x else null

/-- A text or nothing as data. -/
def ofText? : Option String → Data ρ
  | some s => text s
  | none => null

/-- A natural number as data. -/
def ofNat (n : Nat) : Data ρ :=
  int n

/-- A list of texts as data. -/
def ofTexts (xs : List String) : Data ρ :=
  list (xs.map text)

/-- The field `key` of an object. -/
def field? (key : String) : Data ρ → Option (Data ρ)
  | object fields => Fields.find? key fields
  | _ => none

mutual

/-- Puts the fields of all objects within into the order of their keys, by `Fields.ofList`, which keeps
the last one of a key. -/
def sorted : Data ρ → Data ρ
  | list items => list (sortedItems items)
  | object fields => object (Fields.ofList (sortedFields fields))
  | other => other

def sortedItems : List (Data ρ) → List (Data ρ)
  | [] => []
  | x :: xs => sorted x :: sortedItems xs

def sortedFields : List (String × Data ρ) → List (String × Data ρ)
  | [] => []
  | (k, x) :: rest => (k, sorted x) :: sortedFields rest

end

mutual

/-- Applies `f` to all texts within, the keys of objects among them. -/
def mapTexts (f : String → String) : Data ρ → Data ρ
  | text s => text (f s)
  | list items => list (mapTextsItems f items)
  | object fields => object (mapTextsFields f fields)
  | other => other

def mapTextsItems (f : String → String) : List (Data ρ) → List (Data ρ)
  | [] => []
  | x :: xs => mapTexts f x :: mapTextsItems f xs

def mapTextsFields (f : String → String) : List (String × Data ρ) → List (String × Data ρ)
  | [] => []
  | (k, x) :: rest => (f k, mapTexts f x) :: mapTextsFields f rest

end

mutual

/-- Puts what `f` makes of it in the place of every real number within. -/
def replaceReals (f : ρ → Data ρ) : Data ρ → Data ρ
  | real x => f x
  | list items => list (replaceRealsItems f items)
  | object fields => object (replaceRealsFields f fields)
  | other => other

def replaceRealsItems (f : ρ → Data ρ) : List (Data ρ) → List (Data ρ)
  | [] => []
  | x :: xs => replaceReals f x :: replaceRealsItems f xs

def replaceRealsFields (f : ρ → Data ρ) : List (String × Data ρ) → List (String × Data ρ)
  | [] => []
  | (k, x) :: rest => (k, replaceReals f x) :: replaceRealsFields f rest

end

/-- An object with its fields in the order of their keys, at all levels: it is `sorted`. -/
def sortedObject (fields : List (String × Data ρ)) : Data ρ :=
  (object fields).sorted

/-- An object without its field `key`. -/
def dropField (key : String) : Data ρ → Data ρ
  | object fields => object (fields.filter fun field => field.1 ≠ key)
  | other => other

/-- Changes the value of the field `key` of an object, if it is there. -/
def modifyField (key : String) (f : Data ρ → Data ρ) : Data ρ → Data ρ
  | object fields =>
    object (fields.map fun field => if field.1 = key then (key, f field.2) else field)
  | other => other

/-- Changes the items of a list, each by `f`. -/
def mapItems (f : Data ρ → Data ρ) : Data ρ → Data ρ
  | list items => list (items.map f)
  | other => other

end Data

end MailFilter
