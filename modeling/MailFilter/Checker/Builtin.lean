/-
The built-in checkers and the registry they form.
-/
import MailFilter.Checker.Quota
import MailFilter.Checker.Recipients
import MailFilter.Checker.Registry
import MailFilter.Checker.Rspamd
import MailFilter.Checker.Rules

namespace MailFilter

variable {σ : Type}

/-- The built-in checkers of the `settings`. The `counters` of the quotas are a part of the shared
memory. -/
def builtinCheckers (counters : Focus σ Counters) (exchange : ScanRequest → Exchange)
    (settings : ModuleSettings) : Except Fault (List (Checker σ)) := do
  let rules ← TextRules.ofSettings settings.rules
  return [Rspamd.checker exchange settings.rspamd, TextRules.checker settings.rules.enabled rules,
    RecipientGate.checker settings.recipients, (Quota.checker settings.quotas).focus counters]

/-- The registry of the `builtinCheckers`. -/
def Registry.builtin (counters : Focus σ Counters) (exchange : ScanRequest → Exchange)
    (settings : ModuleSettings) : Except Fault (Registry σ) :=
  builtinCheckers counters exchange settings >>= Registry.new

end MailFilter
