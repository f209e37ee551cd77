/-
Rehearsals read from data: the scripts of checkers, facts about clients, and operations.
-/
import MailFilter.Checker.Scripted
import MailFilter.Rehearsal.Draft
import MailFilter.Rehearsal.Labels

namespace MailFilter

/-! ### Scripts -/

/-- Reads a `Panic`: its text, unless it has none. -/
def Panic.read (j : Json) : Read Panic := do
  let text ← j.allowOr Data.asText? "" "text"
  return ⟨if (← j.allowOr Data.asText? "string" "payload") = "other" then none else some text⟩

/-- How long a check that waits to be cancelled goes on, in milliseconds. -/
def patienceMs : Nat := 3600000

/-- Reads the `CheckScript` of a message check; one that waits to be cancelled goes on
for `patienceMs`. -/
def CheckScript.read (j : Json) : Read CheckScript := do
  let delayMs ← j.allowOr Data.asNat? 0 "delay_ms"
  match ← j.allowOr Data.asText? "" "kind" with
  | "result" =>
    let followUps ← j.allowOr Data.asTexts? [] "callbacks"
    return { delayMs, outcome := .opinion { ← CheckResult.read j with followUps } }
  | "error" =>
    let text ← j.allowOr Data.asText? "" "text"
    return { delayMs, outcome := .failed (← j.allowOr Data.asText? text "context") }
  | "panic" => return { delayMs, outcome := .panicked (← Panic.read j) }
  | "cancellable" =>
    let late : CheckResult Float := { CheckResult.new .reject 100.0 with message := "too late" }
    return { delayMs := delayMs + patienceMs, cancellable := true, outcome := .opinion late }
  | _ => return { delayMs, outcome := .abstained }

/-- Reads the `GateScript` of a recipient check. -/
def GateScript.read (j : Json) : Read GateScript := do
  let text ← j.allowOr Data.asText? "" "text"
  let outcome : GateOutcome ← match ← j.allowOr Data.asText? "" "kind" with
    | "reject" => pure (.verdict (.reject text))
    | "tempfail" => pure (.verdict (.tempfail text))
    | "error" => pure (.verdict ⟨.error, text⟩)
    | "err" => pure (.failed text)
    | "panic" => pure (.panicked (← Panic.read j))
    | _ => pure (.verdict .permit)
  return { outcome, delayMs := ← j.allowOr Data.asNat? 0 "delay_ms"
           only := ← j.allow Data.asText? "only" }

/-- Reads the script of a channel: its name, or its name and how it fails. -/
def ChannelScript.ofData? : Json → Option ChannelScript
  | .text name => some { name }
  | .list [.text name, .text failure] => some { name, failure := some failure }
  | _ => none

/-- Reads the `Script` of a checker, with the scripts of its checks and channels. -/
def Script.read (j : Json) : Read Script := do
  let channels (key : String) : Read (List ChannelScript) :=
    j.allowOr (fun v => (Data.asList? v).bind fun xs => xs.mapM ChannelScript.ofData?) [] key
  return {
    name := ← j.require Data.asText? "name"
    enabled := ← j.allowOr Data.asBool? true "enabled"
    startFailure := ← j.allow Data.asText? "init_error"
    stopFailure := ← j.allow Data.asText? "stop_error"
    check := ← (j.present? "check").mapM CheckScript.read
    gate := ← (j.present? "recipient").mapM GateScript.read
    ipc := ← channels "ipc"
    rpc := ← channels "rpc" }

/-! ### Clients -/

/-- Reads facts about encryption. -/
def Tls.read (j : Json) : Read Tls := do
  let text := j.allow Data.asText?
  return { version := ← text "version", cipher := ← text "cipher"
           cipherBits := ← text "cipher_bits", certSubject := ← text "cert_subject"
           certIssuer := ← text "cert_issuer" }

/-- Reads facts about authentication. -/
def Sasl.read (j : Json) : Read Sasl := do
  return { username := ← j.allow Data.asText? "username", method := ← j.allow Data.asText? "method" }

/-- Reads a network address. -/
def Ip.read (j : Json) : Read (Option Ip) :=
  j.allow (fun v => (Data.asText? v).bind Ip.parse?) "ip"

/-- Reads what is known of a client. -/
def Connection.read (j : Json) : Read Connection := do
  return {
    ip := ← Ip.read j
    port := ← j.allow Data.asNat? "port"
    reverseDns := ← j.allow Data.asText? "rdns"
    helo := ← j.allow Data.asText? "helo"
    tls := ← Tls.read (j.valueOr "tls" (.object []))
    sasl := ← Sasl.read (j.valueOr "sasl" (.object []))
    allowListed := ← j.allowOr Data.asBool? false "allow_listed" }

/-! ### Operations -/

/-- Reads the settings of the filter, by `strictLeaves`. -/
def Config.read (j : Json) : Read Config :=
  readSettings Config.strictLeaves.config {} j "config"

/-- Reads a stage. -/
def Stage.read (j : Json) : Read Stage :=
  j.require (fun v => (Data.asText? v).bind Stage.ofName?) "stage"

/-- Reads a `Callback`, if the operation is one. -/
def Callback.read (j : Json) : Read (Option Callback) := do
  let text := j.require Data.asText?
  let sasl := Sasl.read (j.valueOr "sasl" (.object []))
  match ← text "do" with
  | "helo" => return some (.helo (← text "helo") (← Tls.read (j.valueOr "tls" (.object []))))
  | "env_from" => return some (.envFrom (← j.allowOr Data.asTexts? [] "args") (← sasl))
  | "env_rcpt" => return some (.envRcpt (← j.allowOr Data.asTexts? [] "args"))
  | "header" => return some (.header (← text "key") (← text "value"))
  | "eoh" => return some (.eoh (← j.allow Data.asText? "queue_id") (← sasl))
  | "body" => return some (.body (← j.require Data.asBytes? "data"))
  | "eom" => return some (.eom (← j.allow Data.asText? "queue_id"))
  | "abort" => return some .abort
  | "close" => return some .close
  | _ => return none

/-- The identifier of a session that does not exist. -/
def unknownSession : Uuid := Uuid.issued (1 <<< 70)

/-- Reads the session of an operation: its label, or none; `unknownSession` has a label of its own. -/
def Labels.readSession (l : Labels) (j : Json) : Read (Option Uuid) :=
  match j.present? "sid" with
  | none => .ok none
  | some (.text "unknown") => .ok (some unknownSession)
  | some (.text label) =>
    match l.session? label with
    | some id => .ok (some id)
    | none => .error (.field "sid")
  | some _ => .error (.field "sid")

/-- Reads an `Operation`, which may be one by `Callback.read`. -/
def Operation.read (l : Labels) (j : Json) : Read Operation := do
  let text := j.require Data.asText?
  match ← Callback.read j with
  | some (.eom queueId) =>
    let settles := !(← j.allowOr Data.asBool? false "no_wait")
    return .callback (← l.readSession j) (.eom queueId) settles
  | some c => return .callback (← l.readSession j) c false
  | none =>
    match ← text "do" with
    | "connect" =>
      return .connect (← Ip.read j) (← j.allow Data.asNat? "port") (← j.allow Data.asText? "rdns")
    | "prune" => return .prune (← j.allowOr Data.asInt? 0 "offset_secs")
    | "pruner" => return .sweep (← j.allowOr Data.asNat? 0 "interval_secs")
    | "live" => return .countSessions
    | "get" => return .findSession (← l.readSession j) (← Stage.read j)
    | "override_config" => return .overrideConfig (← l.readSession j) (← Config.read j)
    | "replace_config" => return .replaceConfig (← Config.read j)
    | "ipc" => return .deliver (← text "channel") (j.valueOr "payload" .null)
    | "sleep" => return .sleep (← j.allowOr Data.asNat? 0 "ms")
    | "shutdown" => return .shutdown
    | "metrics" => return .showMetrics
    | _ => throw (.field "do")

/-- An operation by `Operation.read`, and why it could not be read; one that could not be is a look at
its session. -/
def Operation.readOrLook (l : Labels) (j : Json) : Option ReadFault × Operation :=
  match Operation.read l j with
  | .ok op => (none, op)
  | .error fault => (some fault, .look ((l.readSession j).toOption.join))

end MailFilter
