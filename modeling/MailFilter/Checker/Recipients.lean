/-
The recipient gate: refuses denied addresses and foreign domains.
-/
import MailFilter.Checker.Basic
import MailFilter.Config.Basic
import MailFilter.Text.Lowercase

namespace MailFilter

/-- The addresses and domains of a recipient gate, without regard to case: `domainKey`
and small letters. -/
structure RecipientGate where
  /-- The domains that mail is accepted for; all if there are none. -/
  domains : List String
  denied : List String
  message : String

namespace RecipientGate

/-- A domain as it is compared: trimmed by `Text.trimChars`, without points at its end,
in small letters. -/
def domainKey (s : String) : String :=
  Text.lowercase (String.ofList (Text.dropLastWhile (· = '.') (Text.trimChars s.toList)))

/-- The gate of the `settings`. -/
def ofSettings (settings : RecipientSettings) : RecipientGate where
  domains := settings.acceptedDomains.map domainKey
  denied := settings.reject.map fun a => Text.lowercase (Text.trim a)
  message := settings.message

/-- Whether a recipient is refused: it is `denied`, or its domain is none of those accepted. -/
def refuses (g : RecipientGate) (recipient : Address) : Bool :=
  g.denied.contains (Text.lowercase recipient.text) ||
    (!g.domains.isEmpty && !g.domains.contains (Text.lowercase recipient.domain))

/-- The answer for a recipient, by whether the gate `refuses` it. -/
def verdict (g : RecipientGate) (recipient : Address) : RecipientVerdict :=
  if g.refuses recipient then .reject ("5.1.1 " ++ g.message) else .permit

/-- The recipient gate as a checker, which answers with `verdict` and judges no messages. -/
def checker {σ : Type} (settings : RecipientSettings) : Checker σ :=
  let g := ofSettings settings
  { name := "recipients"
    enabled := settings.enabled
    gate := fun _ recipient s => ({ outcome := .verdict (g.verdict recipient) }, s) }

end RecipientGate

end MailFilter
