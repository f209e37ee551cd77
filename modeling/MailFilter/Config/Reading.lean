/-
Settings read from structured data.

What counts as a number, a text or a name is left to `Leaves`: the strict reading takes values of
the right type only, while settings files allow conversions. A structure is an object, or the list
of its parts in their order; parts with a default may be absent.
-/
import MailFilter.Config.Basic
import MailFilter.Data.Basic
import MailFilter.Text.Lowercase
import MailFilter.Number.Reading

namespace MailFilter.Config

/-- How single values are read. -/
structure Leaves where
  bool : Json → Option Bool
  /-- A natural number of so many bits. -/
  natural : Nat → Json → Option Nat
  real : Json → Option Float
  text : Json → Option String
  /-- One of the given names. -/
  name : List String → Json → Option String
  /-- Whether nothing stands for an absent optional value. -/
  absent : Json → Bool
  /-- Whether a list may be longer than the structure it stands for. -/
  allowsSurplus : Bool

/-- The name in a text, or in an object with that single key and nothing under it. -/
def strictName (names : List String) (j : Json) : Option String :=
  let s := match j with
    | .text s => some s
    | .object [(key, .null)] => some key
    | _ => none
  s.bind fun s => if names.contains s then some s else none

/-- The strict `Leaves`: values of the right type only, where a whole number is a number too. -/
def strictLeaves : Leaves where
  bool
    | .bool b => some b
    | _ => none
  natural bits
    | .int n => if 0 ≤ n && n.toNat < 1 <<< bits then some n.toNat else none
    | _ => none
  real
    | .real x => some x
    | .int n => some (Float.ofInt n)
    | _ => none
  text
    | .text s => some s
    | _ => none
  name := strictName
  absent
    | .null => true
    | _ => false
  allowsSurplus := false

/-- A structure about to be read: the part with the name `key` or, in a list, at the `place`. -/
def part (j : Json) (place : Nat) (key : String) : Option Json :=
  match j with
  | .object fields => Fields.find? key fields
  | .list items => items[place]?
  | _ => none

/-- Whether data can be a structure of so many `parts`. -/
def Leaves.isStructure (l : Leaves) (parts : Nat) : Json → Bool
  | .object _ => true
  | .list items => l.allowsSurplus || items.length ≤ parts
  | _ => false

/-- Reads a part that may be absent and has a `default` then. -/
def optional {α : Type} (read : Json → Option α) (default : α) : Option Json → Option α
  | none => some default
  | some j => read j

/-- Reads a part that must be there. -/
def required {α : Type} (read : Json → Option α) (j : Option Json) : Option α :=
  j.bind read

/-- Reads a list, each of its items with `read`. -/
def list {α : Type} (read : Json → Option α) : Json → Option (List α)
  | .list items => items.mapM read
  | _ => none

namespace Leaves

variable (l : Leaves)

/-- Reads a network. -/
def network (j : Json) : Option Network :=
  (l.text j).bind Network.parse?

/-- Reads a `RuleKind` by its name. -/
def ruleKind (j : Json) : Option RuleKind :=
  (l.name (RuleKind.all.map RuleKind.name) j).bind fun s =>
    RuleKind.all.find? fun kind => kind.name == s

/-- Reads the weights of the members of a group. -/
def members : Json → Option (List (String × Float))
  | .object fields =>
    (fields.mapM fun field => (l.real field.2).map fun w => (field.1, w)).map Fields.ofList
  | _ => none

/-- Reads a `ModuleGroup`, with the weights of its `members`. -/
def group (j : Json) : Option (ModuleGroup Float) := do
  guard (l.isStructure 3 j)
  return {
    name := ← required l.text (part j 0 "name")
    weight := ← required l.real (part j 1 "weight")
    members := ← optional l.members [] (part j 2 "members") }

/-- Reads thresholds and groups: a `Scoring`. -/
def scoring (j : Json) : Option (Scoring Float) := do
  guard (l.isStructure 6 j)
  return {
    rejectThreshold := ← optional l.real 5.0 (part j 0 "reject_threshold")
    tempfailThreshold := ← optional l.real 5.0 (part j 1 "tempfail_threshold")
    breakerThreshold := ← optional l.real 25.0 (part j 2 "breaker_threshold")
    spamFlagThreshold := ← optional l.real 5.0 (part j 3 "spam_flag_threshold")
    errorScore := ← optional l.real 25.0 (part j 4 "error_score")
    groups := ← optional (list l.group) [] (part j 5 "groups") }

/-- Reads a `HeaderTemplate`. -/
def template (j : Json) : Option HeaderTemplate := do
  guard (l.isStructure 3 j)
  return {
    key := ← required l.text (part j 0 "key")
    value := ← required l.text (part j 1 "value")
    unique := ← optional l.bool false (part j 2 "unique") }

/-- Reads a content `Rule`. -/
def rule (j : Json) : Option (Rule Float) := do
  guard (l.isStructure 6 j)
  return {
    name := ← required l.text (part j 0 "name")
    description := ← optional l.text "" (part j 1 "description")
    kind := ← required l.ruleKind (part j 2 "type")
    pattern := ← required l.text (part j 3 "pattern")
    score := ← required l.real (part j 4 "score")
    enabled := ← optional l.bool true (part j 5 "enabled") }

/-- Reads the settings of the rule checker. -/
def rules (j : Json) : Option (RuleSettings Float) := do
  guard (l.isStructure 4 j)
  return {
    enabled := ← optional l.bool true (part j 0 "enabled")
    defaultRules := ← optional l.bool true (part j 1 "default_rules")
    rejectScore := ← optional l.real 10.0 (part j 2 "reject_score")
    rules := ← optional (list l.rule) [] (part j 3 "rules") }

/-- Reads a part that may be absent or nothing. In a list its `place` must be filled. -/
def nullable {α : Type} (read : Json → Option α) (j : Json) (place : Nat) (key : String) :
    Option (Option α) :=
  match j, part j place key with
  | .list _, none => none
  | _, none => some none
  | _, some value => if l.absent value then some none else (read value).map some

/-- Reads the settings of the spam scanner. -/
def rspamd (j : Json) : Option RspamdSettings := do
  guard (l.isStructure 4 j)
  let d : RspamdSettings := {}
  return {
    enabled := ← optional l.bool d.enabled (part j 0 "enabled")
    url := ← optional l.text d.url (part j 1 "url")
    timeoutMs := ← optional (l.natural 64) d.timeoutMs (part j 2 "timeout_ms")
    password := ← l.nullable l.text j 3 "password" }

/-- Reads the settings of the recipient gate. -/
def recipients (j : Json) : Option RecipientSettings := do
  guard (l.isStructure 4 j)
  let d : RecipientSettings := {}
  return {
    enabled := ← optional l.bool d.enabled (part j 0 "enabled")
    acceptedDomains := ← optional (list l.text) [] (part j 1 "accepted_domains")
    reject := ← optional (list l.text) [] (part j 2 "reject")
    message := ← optional l.text d.message (part j 3 "message") }

/-- Reads the settings of the sender quotas. -/
def quotas (j : Json) : Option QuotaSettings := do
  guard (l.isStructure 5 j)
  let d : QuotaSettings := {}
  return {
    enabled := ← optional l.bool d.enabled (part j 0 "enabled")
    maxMessages := ← optional (l.natural 32) d.maxMessages (part j 1 "max_messages")
    windowSecs := ← optional (l.natural 64) d.windowSecs (part j 2 "window_secs")
    score := ← optional l.real d.score (part j 3 "score")
    message := ← optional l.text d.message (part j 4 "message") }

/-- Reads the settings of the built-in modules. -/
def modules (j : Json) : Option ModuleSettings := do
  guard (l.isStructure 4 j)
  return {
    rspamd := ← optional l.rspamd {} (part j 0 "rspamd")
    rules := ← optional l.rules ({} : ModuleSettings).rules (part j 1 "rules")
    recipients := ← optional l.recipients {} (part j 2 "recipients")
    quotas := ← optional l.quotas {} (part j 3 "quotas") }

/-- Reads the settings of the mail server connection. -/
def milter (j : Json) : Option MilterSettings := do
  guard (l.isStructure 7 j)
  let d : MilterSettings := {}
  let number := optional (l.natural 64)
  return {
    listen := ← optional l.text d.listen (part j 0 "listen")
    noop := ← optional l.bool d.noop (part j 1 "noop")
    propagatePanics := ← optional l.bool d.propagatePanics (part j 2 "propagate_panics")
    allowList := ← optional (list l.network) [] (part j 3 "allow_list")
    sessionMaxAgeSecs := ← number d.sessionMaxAgeSecs (part j 4 "session_max_age_secs")
    pruneIntervalSecs := ← number d.pruneIntervalSecs (part j 5 "prune_interval_secs")
    moduleTimeoutMs := ← number d.moduleTimeoutMs (part j 6 "module_timeout_ms") }

/-- Reads the settings of the record store. -/
def storage (j : Json) : Option StorageSettings := do
  guard (l.isStructure 3 j)
  let d : StorageSettings := {}
  return {
    enabled := ← optional l.bool d.enabled (part j 0 "enabled")
    path := ← optional l.text d.path (part j 1 "path")
    queueSize := ← optional (l.natural 64) d.queueSize (part j 2 "queue_size") }

/-- Reads the settings of the log. -/
def logging (j : Json) : Option LoggingSettings := do
  guard (l.isStructure 2 j)
  let d : LoggingSettings := {}
  return {
    level := ← optional l.text d.level (part j 0 "level")
    format := ← optional l.text d.format (part j 1 "format") }

/-- Reads the host name of the server. -/
def server (j : Json) : Option String := do
  guard (l.isStructure 1 j)
  optional l.text "localhost" (part j 0 "hostname")

/-- Reads the settings of the filter, a `Config`, of which every part may be absent. -/
def config (j : Json) : Option Config := do
  guard (l.isStructure 7 j)
  return {
    hostname := ← optional l.server "localhost" (part j 0 "server")
    milter := ← optional l.milter {} (part j 1 "milter")
    scoring := ← optional l.scoring ({} : Config).scoring (part j 2 "scoring")
    headers := ← optional (list l.template) [] (part j 3 "headers")
    logging := ← optional l.logging {} (part j 4 "logging")
    storage := ← optional l.storage {} (part j 5 "storage")
    modules := ← optional l.modules {} (part j 6 "modules") }

end Leaves

end MailFilter.Config
