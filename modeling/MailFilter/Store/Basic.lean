/-
Stores of audit records: in memory, as lines of a file, or nowhere.

Each line of a file is an object with the kind of a record and the record itself.
-/
import MailFilter.Config.Basic
import MailFilter.Data.Printer
import MailFilter.Fault
import MailFilter.Record
import MailFilter.Store.Directory
import MailFilter.Store.Queue

namespace MailFilter

/-- Records kept in memory, in the order in which `add` has been called. -/
structure Archive where
  messages : List MessageRecord := []
  sessions : List SessionRecord := []

/-- Adds a record. -/
def Archive.add (a : Archive) : Record → Archive
  | .message r => { a with messages := a.messages ++ [r] }
  | .session r => { a with sessions := a.sessions ++ [r] }

/-- The kind of a record and the record as data. -/
def Record.toData : Record → Json
  | .message r => .object [("kind", .text "message"), ("record", r.toData)]
  | .session r => .object [("kind", .text "session"), ("record", r.toData)]

/-- The line of a record: `toData` in one line. -/
def Record.line (r : Record) : String :=
  r.toData.render ++ "\n"

/-- A file of lines below a directory. -/
structure LineFile where
  /-- The path as it is told in faults. -/
  name : String
  path : Steps
  directory : Directory

/-- A store of records. -/
inductive Store where
  | memory (archive : Archive)
  | lines (file : LineFile)
  | nowhere

namespace LineFile

/-- A file of lines at `path` below a directory with the name `directoryName`. The directories on the
path are made if they are not there. -/
def create (directoryName : String) (directory : Directory) (path : String) :
    Except Fault LineFile :=
  let steps := Directory.steps path
  match directory.ensure steps.dropLast with
  | .ok directory => .ok ⟨directoryName ++ "/" ++ path, steps, directory⟩
  | .error fault => .error (.storage ("Failed to create storage directory: " ++ fault.message))

/-- Whether the path can only lead to a directory. -/
def isDirectoryPath (f : LineFile) : Bool :=
  f.name.toList.getLast? = some '/'

/-- The directory once `line` has been added to the file. -/
def appended (f : LineFile) (line : String) : Except PathFault Directory :=
  if f.isDirectoryPath then
    match f.directory.find? f.path with
    | some (.file _) => .error .notDirectory
    | _ => .error .isDirectory
  else f.directory.append f.path line

/-- Adds a line, which changes the directory to `appended`. -/
def append (f : LineFile) (line : String) : Except Fault LineFile :=
  match f.appended line with
  | .ok directory => .ok { f with directory }
  | .error fault => .error (.storage ("Failed to open " ++ f.name ++ ": " ++ fault.message))

/-- The text of the file, if there is one. -/
def text? (f : LineFile) : Option String :=
  f.directory.read? f.path

end LineFile

namespace Store

/-- The store that `settings` ask for. -/
def ofSettings (directoryName : String) (directory : Directory) (settings : StorageSettings) :
    Except Fault Store :=
  if settings.enabled then
    (LineFile.create directoryName directory settings.path).map Store.lines
  else .ok .nowhere

/-- Saves a record: `Archive.add` in memory, `LineFile.append` in a file. -/
def save (r : Record) : Store → Except Fault Unit × Store
  | memory archive => (.ok (), memory (archive.add r))
  | lines file =>
    match file.append r.line with
    | .ok file => (.ok (), lines file)
    | .error fault => (.error fault, lines file)
  | nowhere => (.ok (), nowhere)

/-- What a queue asks of a store: to `save` a record. -/
def saving : Saving Store := { save }

/-- The records kept in memory. -/
def archive : Store → Archive
  | memory archive => archive
  | _ => {}

/-- The text of the file of lines, if there is one. -/
def text? : Store → Option String
  | lines file => file.text?
  | _ => none

end Store

end MailFilter
