/-
Facts about the client of a session.
-/
import MailFilter.Net.Ip

namespace MailFilter

/-- Facts about encryption, known from the greeting on. -/
structure Tls where
  version : Option String := none
  cipher : Option String := none
  cipherBits : Option String := none
  certSubject : Option String := none
  certIssuer : Option String := none
  deriving DecidableEq, Repr

/-- Facts about authentication, known once a message starts. -/
structure Sasl where
  username : Option String := none
  method : Option String := none
  deriving DecidableEq, Repr

/-- What is known of a client. -/
structure Connection where
  ip : Option Ip := none
  port : Option Nat := none
  reverseDns : Option String := none
  helo : Option String := none
  tls : Tls := {}
  sasl : Sasl := {}
  /-- Whether the client is never refused. -/
  allowListed : Bool := false
  deriving DecidableEq, Repr

/-- Takes over the facts `sasl` about authentication, unless a user is known already. -/
def Connection.recordSasl (c : Connection) (sasl : Sasl) : Connection :=
  if c.sasl.username.isNone && sasl.username.isSome then { c with sasl } else c

end MailFilter
