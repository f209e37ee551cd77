/-
Settings written as structured data, with every field.
-/
import MailFilter.Config.Basic
import MailFilter.Data.Basic

namespace MailFilter

/-- A group as data. -/
def ModuleGroup.toData (g : ModuleGroup Float) : Json :=
  .object [("name", .text g.name), ("weight", .real g.weight),
    ("members", .object (g.members.map fun m => (m.1, .real m.2)))]

/-- Thresholds and groups as data. -/
def Scoring.toData (s : Scoring Float) : Json :=
  .object [("reject_threshold", .real s.rejectThreshold),
    ("tempfail_threshold", .real s.tempfailThreshold),
    ("breaker_threshold", .real s.breakerThreshold),
    ("spam_flag_threshold", .real s.spamFlagThreshold), ("error_score", .real s.errorScore),
    ("groups", .list (s.groups.map ModuleGroup.toData))]

/-- A header template as data. -/
def HeaderTemplate.toData (t : HeaderTemplate) : Json :=
  .object [("key", .text t.key), ("value", .text t.value), ("unique", .bool t.unique)]

/-- A content rule as data. -/
def Rule.toData (r : Rule Float) : Json :=
  .object [("name", .text r.name), ("description", .text r.description),
    ("type", .text r.kind.name), ("pattern", .text r.pattern), ("score", .real r.score),
    ("enabled", .bool r.enabled)]

/-- The settings of the built-in modules as data. -/
def ModuleSettings.toData (m : ModuleSettings) : Json :=
  .object [
    ("rspamd", .object [("enabled", .bool m.rspamd.enabled), ("url", .text m.rspamd.url),
      ("timeout_ms", Data.ofNat m.rspamd.timeoutMs), ("password", Data.ofText? m.rspamd.password)]),
    ("rules", .object [("enabled", .bool m.rules.enabled),
      ("default_rules", .bool m.rules.defaultRules), ("reject_score", .real m.rules.rejectScore),
      ("rules", .list (m.rules.rules.map Rule.toData))]),
    ("recipients", .object [("enabled", .bool m.recipients.enabled),
      ("accepted_domains", Data.ofTexts m.recipients.acceptedDomains),
      ("reject", Data.ofTexts m.recipients.reject), ("message", .text m.recipients.message)]),
    ("quotas", .object [("enabled", .bool m.quotas.enabled),
      ("max_messages", Data.ofNat m.quotas.maxMessages),
      ("window_secs", Data.ofNat m.quotas.windowSecs), ("score", .real m.quotas.score),
      ("message", .text m.quotas.message)])]

/-- The settings of the mail server connection as data. -/
def MilterSettings.toData (m : MilterSettings) : Json :=
  .object [("listen", .text m.listen), ("noop", .bool m.noop),
    ("propagate_panics", .bool m.propagatePanics),
    ("allow_list", Data.ofTexts (m.allowList.map Network.text)),
    ("session_max_age_secs", Data.ofNat m.sessionMaxAgeSecs),
    ("prune_interval_secs", Data.ofNat m.pruneIntervalSecs),
    ("module_timeout_ms", Data.ofNat m.moduleTimeoutMs)]

/-- The settings of the filter as data. -/
def Config.toData (c : Config) : Json :=
  .object [("server", .object [("hostname", .text c.hostname)]), ("milter", c.milter.toData),
    ("scoring", c.scoring.toData), ("headers", .list (c.headers.map HeaderTemplate.toData)),
    ("logging", .object [("level", .text c.logging.level), ("format", .text c.logging.format)]),
    ("storage", .object [("enabled", .bool c.storage.enabled), ("path", .text c.storage.path),
      ("queue_size", Data.ofNat c.storage.queueSize)]),
    ("modules", c.modules.toData)]

end MailFilter
