/-
Settings that can be replaced while the filter runs.

Whoever holds the settings of some moment keeps them; a replacement is seen by those who ask later.
-/
import MailFilter.Config.File

namespace MailFilter

/-- The settings of now, and whether they come from a file that `reload` can read again. -/
structure ConfigHandle where
  current : Config
  hasFile : Bool

namespace ConfigHandle

/-- Settings that come from nowhere in particular. -/
def fixed (config : Config) : ConfigHandle :=
  ⟨config, false⟩

/-- Settings from a file. -/
def load (file : Option String) (environment : Config.Environment) : Except Fault ConfigHandle :=
  (Config.ofFile file environment).map fun config => ⟨config, true⟩

/-- Puts `config` in the place of the settings of now. -/
def replace (config : Config) (h : ConfigHandle) : ConfigHandle :=
  { h with current := config }

/-- Reads the file again, with `Config.ofFile`. If that fails the settings stay as they are. -/
def reload (file : Option String) (environment : Config.Environment) (h : ConfigHandle) :
    Except Fault ConfigHandle :=
  if h.hasFile then (Config.ofFile file environment).map fun config => h.replace config
  else .error (.config .noSource)

end ConfigHandle

end MailFilter
