/-
The rule checker: scores a message by rules on its headers and its body.

The rules work with any way of matching patterns. The result names the rules that matched with their
scores, and headers marked deleted play no part.
-/
import MailFilter.Checker.Basic
import MailFilter.Config.Basic
import MailFilter.Fault
import MailFilter.Pattern.Reader

namespace MailFilter

/-- The default rules, which `RuleSet.ofSettings` puts first if they are wanted. -/
def defaultRules : List (Rule Float) := [
  { name := "SUBJECT_URGENCY", description := "Subject contains urgency words", kind := .subject
    pattern := "(?i)(urgent|immediate|action required|act now|limited time)", score := 1.5 },
  { name := "SUBJECT_MONEY", description := "Subject mentions money or prizes", kind := .subject
    pattern := "(?i)(lottery|prize|million|bitcoin|crypto)", score := 2.0 },
  { name := "BODY_CLICK_HERE", description := "Body contains 'click here' links", kind := .body
    pattern := "(?i)(click here|click below|click this link)", score := 1.0 },
  { name := "BODY_ADVANCE_FEE", description := "Body matches advance-fee scam patterns"
    kind := .body, pattern := "(?i)(inheritance|beneficiary|next of kin)", score := 4.0 },
  { name := "BODY_PHISHING", description := "Body contains phishing patterns", kind := .body
    pattern :=
      "(?i)(verify your account|confirm your identity|update your (password|details))"
    score := 3.0 },
  { name := "URL_IP_ADDRESS", description := "Contains URL with IP address", kind := .url
    pattern := "https?://\\d\x7b1,3\x7d\\.\\d\x7b1,3\x7d\\.\\d\x7b1,3\x7d\\.\\d\x7b1,3\x7d"
    score := 3.0 },
  { name := "MISSING_DATE", description := "Missing Date header", kind := .missingHeader
    pattern := "Date", score := 1.5 },
  { name := "FROM_SUSPICIOUS_TLD", description := "From suspicious top-level domain"
    kind := .sender, pattern := "(?i)\\.(xyz|top|gq|ml|cf|tk|click|loan)>?$", score := 2.0 },
  { name := "BODY_EMPTY", description := "Message body is empty", kind := .bodyLength
    pattern := "0", score := 2.0 }]

/-- What a rule tests. -/
inductive RuleTest (π : Type) where
  /-- Some header line matches. -/
  | header (pattern : π)
  | body (pattern : π)
  | sender (pattern : π)
  | subject (pattern : π)
  | hasHeader (name : String)
  | missingHeader (name : String)
  /-- The body without the blanks around it has at most so many bytes. -/
  | bodyLength (max : Nat)
  /-- The body or some header value matches. -/
  | url (pattern : π)

/-- A rule made ready by `Rule.prepare`. -/
structure ReadyRule (π ρ : Type) where
  name : String
  score : ρ
  enabled : Bool
  test : RuleTest π

/-- Makes a rule ready: `read` is the reader of patterns. -/
def Rule.prepare {π ρ : Type} (read : String → Except String π) (r : Rule ρ) :
    Except Fault (ReadyRule π ρ) :=
  let ready (test : RuleTest π) : ReadyRule π ρ := ⟨r.name, r.score, r.enabled, test⟩
  let withPattern (test : π → RuleTest π) : Except Fault (ReadyRule π ρ) :=
    match read r.pattern with
    | .ok p => .ok (ready (test p))
    | .error detail => .error (.config (.invalidPattern r.name detail))
  match r.kind with
  | .header => withPattern .header
  | .body => withPattern .body
  | .sender => withPattern .sender
  | .subject => withPattern .subject
  | .url => withPattern .url
  | .hasHeader => .ok (ready (.hasHeader r.pattern))
  | .missingHeader => .ok (ready (.missingHeader r.pattern))
  | .bodyLength =>
    match Number.readNatural Number.maxNatural r.pattern with
    | .ok max => .ok (ready (.bodyLength max))
    | .error fault => .error (.config (.invalidLength r.name fault.message))

/-- The parts of a message that rules look at. -/
structure RuleView where
  /-- The body as text. -/
  body : String
  headers : List Header

/-- What rules see of a message: its body as text, and its headers. -/
def Message.ruleView (m : Message) : RuleView :=
  ⟨Text.decodeLossy m.body, m.headers⟩

namespace RuleView

/-- The headers that are not `deleted`. -/
def live (v : RuleView) : List Header :=
  v.headers.filter fun h => !h.deleted

/-- The first value of a header, among those that are not `deleted`. -/
def header? (v : RuleView) (key : String) : Option String :=
  ((v.headers.filter fun h => h.answersTo key).head?).map (·.value)

end RuleView

namespace RuleTest

/-- Whether a test holds, where `isMatch` is the way of matching patterns. -/
def holds {π : Type} (isMatch : π → String → Bool) (v : RuleView) : RuleTest π → Bool
  | header p => v.live.any fun h => isMatch p (h.key ++ ": " ++ h.value)
  | body p => isMatch p v.body
  | sender p => isMatch p ((v.header? "From").getD "")
  | subject p => isMatch p ((v.header? "Subject").getD "")
  | hasHeader name => (v.header? name).isSome
  | missingHeader name => (v.header? name).isNone
  | bodyLength max => Text.byteCount (Text.trimChars v.body.toList) ≤ max
  | url p => isMatch p v.body || v.live.any fun h => isMatch p h.value

end RuleTest

/-- A set of rules made ready, and the score from which on they refuse a message. -/
structure RuleSet (π ρ : Type) where
  rejectScore : ρ
  rules : List (ReadyRule π ρ)

namespace RuleSet

variable {π ρ : Type}

/-- Adds a rule, if `Rule.prepare` makes it ready. -/
def add (read : String → Except String π) (set : RuleSet π ρ) (r : Rule ρ) :
    Except Fault (RuleSet π ρ) :=
  (r.prepare read).map fun ready => { set with rules := set.rules ++ [ready] }

/-- The set of the `settings`, with the `defaults` first if they are wanted. -/
def ofSettings (read : String → Except String π) (defaults : List (Rule ρ))
    (settings : RuleSettings ρ) : Except Fault (RuleSet π ρ) :=
  ((if settings.defaultRules then defaults else []) ++ settings.rules).foldlM (add read)
    ⟨settings.rejectScore, []⟩

/-- The rules that are `enabled` and whose test `holds`, in their order. -/
def matching (isMatch : π → String → Bool) (set : RuleSet π ρ) (v : RuleView) :
    List (ReadyRule π ρ) :=
  set.rules.filter fun r => r.enabled && r.test.holds isMatch v

variable [Score ρ]

/-- The summed `score` of rules. -/
def total (rules : List (ReadyRule π ρ)) : ρ :=
  rules.foldl (fun sum r => Score.add sum r.score) Score.zero

/-- The names of rules with their scores, as data. `Fields.ofList` keeps one score for each name. -/
def listing (rules : List (ReadyRule π ρ)) : List (String × Data ρ) :=
  Fields.ofList (rules.map fun r => (r.name, Data.ofScore r.score))

/-- The text for a message that is rejected. -/
def rejectText : String := "Message content rejected"

/-- The result for a message: the `total` of the rules that match, and in its facts their `listing`. -/
def evaluate (isMatch : π → String → Bool) (set : RuleSet π ρ) (m : Message) : CheckResult ρ :=
  let matched := set.matching isMatch m.ruleView
  let score := total matched
  let rejected := Score.isPositive set.rejectScore && Score.le set.rejectScore score
  let base := CheckResult.new (if rejected then .reject else .permit) score
  { base with message := if rejected then rejectText else "" }.withFact "rules"
    (.object (listing matched))

end RuleSet

/-- A `RuleSet` on text patterns and floating-point scores. -/
abbrev TextRules := RuleSet TextPattern Float

namespace TextRules

/-- Reads a pattern of a rule, with `Pattern.parse`. -/
def readPattern (s : String) : Except String TextPattern :=
  (Pattern.parse s).mapError PatternFault.message

/-- The set of the `settings`, with the `defaultRules`. -/
def ofSettings (settings : RuleSettings Float) : Except Fault TextRules :=
  RuleSet.ofSettings readPattern defaultRules settings

/-- The result for a message, by `RuleSet.evaluate`. -/
def evaluate (rules : TextRules) (m : Message) : CheckResult Float :=
  RuleSet.evaluate Pattern.occursIn rules m

/-- A rule set as a checker, which gives its opinion at once. -/
def checker {σ : Type} (enabled : Bool) (rules : TextRules) : Checker σ where
  name := "rules"
  enabled := enabled
  check ctx _ s := ({ outcome := .opinion (rules.evaluate ctx.message) }, s)

end TextRules

end MailFilter
