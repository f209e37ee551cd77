/-
The text exposition of metrics: families in the order of their names, each with its samples.

A family without samples does not appear.
-/
import MailFilter.Number.Style

namespace MailFilter

/-- One value of a family. -/
structure Sample where
  /-- What follows the name of the family. -/
  ending : String := ""
  labels : List (String × String) := []
  value : Float

/-- A family of samples. -/
structure Family where
  name : String
  help : String
  kind : String
  samples : List Sample

namespace Exposition

/-- A character of a help text; `quotes` tells whether it stands within quotes. -/
def escaped (quotes : Bool) (c : Char) : String :=
  if c = '\\' then "\\\\"
  else if c = '\n' then "\\n"
  else if quotes && c = '"' then "\\\""
  else String.singleton c

/-- A text that fits on a line, each character as `escaped` writes it. -/
def escape (quotes : Bool) (s : String) : String :=
  s.toList.foldl (fun acc c => acc ++ escaped quotes c) ""

/-- A label with its value in quotes, by `escape`. -/
def labelText (label : String × String) : String :=
  label.1 ++ "=\"" ++ escape true label.2 ++ "\""

/-- The labels of a sample. -/
def labelsText (labels : List (String × String)) : String :=
  if labels.isEmpty then "" else "\x7b" ++ ",".intercalate (labels.map labelText) ++ "\x7d"

/-- The line of a `Sample`. -/
def sampleLine (family : String) (s : Sample) : String :=
  family ++ s.ending ++ labelsText s.labels ++ " " ++ Number.plainStyle.text s.value

/-- The lines of a `Family`. -/
def familyLines (f : Family) : List String :=
  if f.samples.isEmpty then []
  else
    ["# HELP " ++ f.name ++ " " ++ escape false f.help, "# TYPE " ++ f.name ++ " " ++ f.kind] ++
      f.samples.map (sampleLine f.name)

/-- The `familyLines` of all families, in the order of their names. -/
def lines (families : List Family) : List String :=
  (families.mergeSort fun a b => a.name ≤ b.name).flatMap familyLines

/-- The whole text: all `lines`. -/
def text (families : List Family) : String :=
  (lines families).foldl (fun acc line => acc ++ line ++ "\n") ""

end Exposition

end MailFilter
