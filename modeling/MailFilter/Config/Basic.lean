/-
The settings of the filter, with their default values.
-/
import MailFilter.Net.Ip
import MailFilter.Number.Score

namespace MailFilter

/-- A group of modules that share one `weight`. Members are kept in the order of their names. -/
structure ModuleGroup (ρ : Type) where
  name : String
  weight : ρ
  members : List (String × ρ)

/-- The thresholds of verdicts. A threshold that is not positive is switched off, as `Verdict.reaches`
says. -/
structure Scoring (ρ : Type) where
  rejectThreshold : ρ
  tempfailThreshold : ρ
  breakerThreshold : ρ
  spamFlagThreshold : ρ
  errorScore : ρ
  groups : List (ModuleGroup ρ)

/-- A header to add at the end of a message. A `unique` one replaces the headers of its name. -/
structure HeaderTemplate where
  key : String
  value : String
  unique : Bool := false
  deriving DecidableEq, Repr

/-- What a content rule looks at. -/
inductive RuleKind where
  | header
  | body
  | sender
  | subject
  | hasHeader
  | missingHeader
  | bodyLength
  | url
  deriving DecidableEq, Repr

namespace RuleKind

/-- All kinds of rules. -/
def all : List RuleKind :=
  [header, body, sender, subject, hasHeader, missingHeader, bodyLength, url]

/-- The name of a kind. -/
def name : RuleKind → String
  | header => "header"
  | body => "body"
  | sender => "from"
  | subject => "subject"
  | hasHeader => "has_header"
  | missingHeader => "missing_header"
  | bodyLength => "body_length"
  | url => "url"

end RuleKind

/-- A content rule: a pattern, a header name or a length, and the score of a match. -/
structure Rule (ρ : Type) where
  name : String
  description : String := ""
  kind : RuleKind
  pattern : String
  score : ρ
  enabled : Bool := true

/-- The settings of the rule checker. -/
structure RuleSettings (ρ : Type) where
  enabled : Bool
  defaultRules : Bool
  rejectScore : ρ
  rules : List (Rule ρ)

/-- The settings of the spam scanner. -/
structure RspamdSettings where
  enabled : Bool := false
  url : String := "http://localhost:11333"
  timeoutMs : Nat := 5000
  password : Option String := none

/-- The settings of the recipient gate. -/
structure RecipientSettings where
  enabled : Bool := false
  acceptedDomains : List String := []
  reject : List String := []
  message : String := "Recipient address rejected"

/-- The settings of the sender quotas. -/
structure QuotaSettings where
  enabled : Bool := false
  maxMessages : Nat := 100
  windowSecs : Nat := 3600
  score : Float := 10.0
  message : String := "Sending quota exceeded, try again later"

/-- The settings of the built-in modules. -/
structure ModuleSettings where
  rspamd : RspamdSettings := {}
  rules : RuleSettings Float := ⟨true, true, 10.0, []⟩
  recipients : RecipientSettings := {}
  quotas : QuotaSettings := {}

/-- The settings of the mail server connection. -/
structure MilterSettings where
  listen : String := "inet:127.0.0.1:8890"
  /-- Verdicts are computed and recorded, but the answer is always to continue. -/
  noop : Bool := false
  /-- A panic caught at a callback is raised again. -/
  propagatePanics : Bool := false
  /-- Networks whose clients are never refused. -/
  allowList : List Network := []
  sessionMaxAgeSecs : Nat := 900
  pruneIntervalSecs : Nat := 60
  moduleTimeoutMs : Nat := 30000

/-- The settings of the record store. -/
structure StorageSettings where
  enabled : Bool := true
  path : String := "/var/lib/mailsift/messages.jsonl"
  queueSize : Nat := 1024

/-- The settings of the log. -/
structure LoggingSettings where
  level : String := "info"
  format : String := "text"

/-- The settings of the filter. -/
structure Config where
  hostname : String := "localhost"
  milter : MilterSettings := {}
  scoring : Scoring Float := ⟨5.0, 5.0, 25.0, 5.0, 25.0, []⟩
  headers : List HeaderTemplate := []
  logging : LoggingSettings := {}
  storage : StorageSettings := {}
  modules : ModuleSettings := {}

/-- Whether clients at the address `ip` are never refused: it is in a network of the `allowList`. -/
def MilterSettings.isAllowListed (m : MilterSettings) (ip : Ip) : Bool :=
  m.allowList.any fun net => net.contains ip

end MailFilter
