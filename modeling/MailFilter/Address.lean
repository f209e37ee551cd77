/-
Mail addresses.

An address is a local part and a domain; both are empty in the null sender. `Address.parse?`
divides a text at its last `@`, and `Address.text` puts the parts together again.
-/
import MailFilter.Text.Blank

namespace MailFilter

/-- A mail address. The `null` sender has an empty local part and an empty domain. -/
structure Address where
  localPart : String
  domain : String
  deriving DecidableEq, Repr

namespace Address

/-- The null sender. -/
def null : Address := ⟨"", ""⟩

/-- Whether an address is the `null` sender. -/
def isNull (a : Address) : Bool :=
  a.localPart.isEmpty && a.domain.isEmpty

/-- The written form; an address without a `domain` is its local part. -/
def text (a : Address) : String :=
  if a.domain.isEmpty then a.localPart else a.localPart ++ "@" ++ a.domain

/-- The parts of a text before and after its last `@`. -/
def splitLast (cs : List Char) : Option (List Char × List Char) :=
  match cs.reverse.dropWhile (· ≠ '@') with
  | [] => none
  | _ :: before => some (before.reverse, (cs.reverse.takeWhile (· ≠ '@')).reverse)

/-- Reads an address with a domain: the last `@` divides two non-empty parts. -/
def parse? (s : String) : Option Address :=
  match splitLast s.toList with
  | some (before, after) =>
    if before.isEmpty || after.isEmpty then none
    else some ⟨String.ofList before, String.ofList after⟩
  | none => none

/-- Strips the blanks and angle brackets around an SMTP argument: the blanks, then the brackets, and then
what blanks they have left. -/
def stripArgument (cs : List Char) : List Char :=
  let inner := (Text.trimChars cs).dropWhile (· = '<')
  Text.trimChars (Text.dropLastWhile (· = '>') inner)

/-- The address in the argument of `MAIL FROM` or `RCPT TO`, after `stripArgument`. An argument that
`parse?` cannot read is kept whole as the local part. -/
def ofArgument (s : String) : Address :=
  let stripped := String.ofList (stripArgument s.toList)
  (parse? stripped).getD ⟨stripped, ""⟩

end Address

end MailFilter
