/-
Settings from a file, with those of the environment put on top of them.
-/
import MailFilter.Config.Coercion
import MailFilter.Config.Environment
import MailFilter.Config.Path
import MailFilter.Config.Validation
import MailFilter.Toml.Reader

namespace MailFilter.Config

/-- The settings of the filter in data read so far, if `validate` accepts them. -/
def ofSettings (j : Json) : Except Fault Config :=
  match coercingLeaves.config j with
  | some c => c.validate
  | none => .error (.config .unreadable)

/-- The settings in a file with the given text, and in the `environment`, which comes first. -/
def ofText (s : String) (environment : Environment) : Except Fault Config :=
  match Toml.parse? s with
  | some j =>
    ofSettings (overlay environment.settings (overlay (fieldsOf j) (.object [])))
  | none => .error (.config .unreadable)

/-- Settings are accepted if something can be told about them. -/
theorem exists_ofText {α : Type} {s : String} {environment : Environment} {f : Config → α} {a : α}
    (h : (ofText s environment).toOption.map f = some a) :
    ∃ config, ofText s environment = .ok config ∧ f config = a := by
  cases hconfig : ofText s environment with
  | error fault =>
    rw [hconfig] at h
    cases h
  | ok config =>
    rw [hconfig] at h
    exact ⟨config, rfl, Option.some.inj h⟩

/-- The settings in a file, if it is there, and in the environment. -/
def ofFile (file : Option String) (environment : Environment) : Except Fault Config :=
  match file with
  | some s => ofText s environment
  | none => .error (.config .unreadable)

/-- Where the settings file is looked for unless the environment names it. -/
def usualPlaces : List String :=
  ["./mailsift.toml", "/etc/mailsift/mailsift.toml"]

/-- The path of the settings file: the one that the environment names, or the first of `usualPlaces`
where there is a file. -/
def locate (isFile : String → Bool) (environment : Environment) : Except Fault String :=
  match environment.find? fun entry => entry.1 = Environment.fileVariable with
  | some (_, path) => .ok path
  | none =>
    match usualPlaces.find? isFile with
    | some path => .ok path
    | none => .error (.config .noFile)

end MailFilter.Config
