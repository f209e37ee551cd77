/-
The negotiation at the start of a connection: what the mail server offers, and what the filter asks
of it.
-/
import MailFilter.Milter.Macros

namespace MailFilter.Milter

/-- What the mail server offers. `actions` and `options` are sets of bits. -/
structure Offer where
  version : Nat := 6
  actions : Nat := 511
  options : Nat := 2097151
  deriving DecidableEq, Repr

/-- What is agreed upon. -/
structure Agreement where
  version : Nat
  actions : Nat
  options : Nat
  /-- The macros that the filter wants to have, by stage. -/
  macros : List (MacroStage × String)

namespace Offer

/-- The oldest version that the filter speaks. -/
def oldestVersion : Nat := 2

/-- The newest version that the filter speaks. -/
def newestVersion : Nat := 6

/-- The actions that go without saying if none are offered. -/
def impliedActions : Nat := 0x0f

/-- The options that go without saying if none are offered. -/
def impliedOptions : Nat := 0x3f

/-- The filter has to add headers and to change them. -/
def neededActions : Nat := 0x11

/-- The filter does not want to hear of unknown commands and of `DATA`. -/
def neededOptions : Nat := 0x300

/-- The filter may tell the server to skip the rest of a body. -/
def skipOption : Nat := 0x400

/-- Whether all bits of the set `part` are in `all`. -/
def includes (all part : Nat) : Bool :=
  all &&& part = part

/-- The macros that the filter wants to have. -/
def wantedMacros : List (MacroStage × String) :=
  let braced (names : List String) : String :=
    " ".intercalate (names.map fun name => "\x7b" ++ name ++ "\x7d")
  let login := braced ["auth_authen", "auth_type"]
  [(.connect, "j"),
    (.helo, braced ["tls_version", "cipher", "cipher_bits", "cert_subject", "cert_issuer"]),
    (.mail, login), (.eom, "i"), (.eoh, "i " ++ login)]

/-- The agreement, if the server offers all that the filter needs: it `includes` both `neededActions` and
`neededOptions`. -/
def agree? (o : Offer) : Option Agreement :=
  let actions := if o.actions = 0 then impliedActions else o.actions
  let options := if o.options = 0 then impliedOptions else o.options
  if o.version < oldestVersion || !includes actions neededActions || !includes options neededOptions
  then none
  else some {
    version := min o.version newestVersion
    actions
    options := neededOptions ||| (options &&& skipOption)
    macros := wantedMacros }

end Offer

end MailFilter.Milter
