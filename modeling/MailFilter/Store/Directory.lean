/-
Directories and files, as far as a store of lines sees them.
-/
namespace MailFilter

/-- What a path can lead to. -/
inductive Node where
  | directory
  | file (text : String)
  deriving DecidableEq, Repr

/-- Why a path cannot be used. -/
inductive PathFault where
  | notFound
  | exists
  | notDirectory
  | isDirectory
  deriving DecidableEq, Repr

/-- The words for a `PathFault`, with its number. -/
def PathFault.message : PathFault → String
  | notFound => "No such file or directory (os error 2)"
  | «exists» => "File exists (os error 17)"
  | notDirectory => "Not a directory (os error 20)"
  | isDirectory => "Is a directory (os error 21)"

/-- A path below a directory, as the names on it. -/
abbrev Steps := List String

/-- What is below a directory, a `Node` for each path. The directory itself is always there. -/
structure Directory where
  nodes : List (Steps × Node) := []
  deriving DecidableEq, Repr

namespace Directory

/-- The names on a path. -/
def steps (path : String) : Steps :=
  (path.splitOn "/").filter fun name => !name.isEmpty && name != "."

/-- The `Node` that a path leads to. -/
def find? (d : Directory) (path : Steps) : Option Node :=
  if path.isEmpty then some .directory
  else (d.nodes.find? fun entry => entry.1 = path).map (·.2)

/-- Puts the `node` at the end of a path. -/
def put (d : Directory) (path : Steps) (node : Node) : Directory :=
  ⟨d.nodes.filter (fun entry => entry.1 ≠ path) ++ [(path, node)]⟩

/-- Makes sure that the directories on a path are there, from the one that `done` leads to on. -/
def ensureFrom (d : Directory) (done : Steps) : Steps → Except PathFault Directory
  | [] => .ok d
  | name :: rest =>
    let path := done ++ [name]
    match d.find? path with
    | some .directory => ensureFrom d path rest
    | some (.file _) => .error (if rest.isEmpty then .exists else .notDirectory)
    | none => ensureFrom (d.put path .directory) path rest

/-- Makes sure that a path leads to a directory, with `ensureFrom` the root. -/
def ensure (d : Directory) : Steps → Except PathFault Directory :=
  ensureFrom d []

/-- Whether the path up to its last name can be walked: `find?` finds a directory there. -/
def reach (d : Directory) (path : Steps) : Except PathFault Unit :=
  match d.find? path.dropLast with
  | some .directory => .ok ()
  | some (.file _) => .error .notDirectory
  | none => .error .notFound

/-- Adds to the end of a file that can be reached with `reach`; it is made if there is none. -/
def append (d : Directory) (path : Steps) (text : String) : Except PathFault Directory := do
  d.reach path
  match d.find? path with
  | some .directory => .error .isDirectory
  | some (.file before) => .ok (d.put path (.file (before ++ text)))
  | none => .ok (d.put path (.file text))

/-- The text of a file. -/
def read? (d : Directory) (path : Steps) : Option String :=
  match d.find? path with
  | some (.file text) => some text
  | _ => none

end Directory

end MailFilter
