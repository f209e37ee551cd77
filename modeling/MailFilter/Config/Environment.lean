/-
Settings from the environment.

A variable whose name starts with a fixed text, in any case, names a setting: two underscores stand
for the point between two keys.
-/
import MailFilter.Data.Basic
import MailFilter.Number.Reading
import MailFilter.Text.Lowercase
import MailFilter.Text.Substitute

namespace MailFilter.Config

/-- The variables of the environment: names and values, each name once. -/
abbrev Environment := List (String × String)

namespace Environment

/-- What the names of settings start with, in small letters. -/
def mark : List Char := "mailsift__".toList

/-- The variable that names the settings file. -/
def fileVariable : String := "MAILSIFT_CONFIG"

/-- The path of the setting that a variable stands for: its `name` starts with the `mark`. -/
def path? (name : String) : Option String :=
  let cs := (Text.lowercase name).toList
  if mark.isPrefixOf cs then
    some (Text.substitute "__" "." (String.ofList (cs.drop mark.length)))
  else none

/-- The value that a text stands for: a truth value, a number or itself. -/
def value (s : String) : Json :=
  match Text.lowercase s with
  | "true" => .bool true
  | "false" => .bool false
  | _ =>
    match Number.readInteger Number.minInteger Number.maxInteger s with
    | .ok n => .int n
    | .error _ => ((Number.readFloat? s).map Data.real).getD (.text s)

/-- The settings in the `Environment`, by their paths: `path?` and `value` of each variable. -/
def settings (e : Environment) : List (String × Json) :=
  e.filterMap fun (name, s) => (path? name).map fun path => (path, value s)

end Environment

end MailFilter.Config
