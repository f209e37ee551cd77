/-
The spam scanner: hands messages to an rspamd server over HTTP and turns its answers into results.

How a request reaches the server is left open: an `Exchange` says what comes back and when.
-/
import MailFilter.Checker.Basic
import MailFilter.Config.Reading
import MailFilter.Data.Reader

namespace MailFilter

/-- A request to the scanner. -/
structure ScanRequest where
  url : String
  headers : List (String × String)
  body : List UInt8

/-- A response of the scanner. -/
structure ScanResponse where
  status : Nat := 200
  body : List UInt8

/-- What comes of a request: a response or the reason why there is none, after some milliseconds. -/
structure Exchange where
  delayMs : Nat := 0
  response : Except String ScanResponse

/-- An opinion of the scanner. -/
structure ScanOpinion where
  score : Float := 0.0
  requiredScore : Float := 5.0
  action : String := ""
  isSkipped : Bool := false
  symbols : List (String × Float) := []
  messageId : Option String := none

namespace Rspamd

/-! ### Requests -/

/-- The address that messages are handed to. -/
def checkUrl (settings : RspamdSettings) : String :=
  String.ofList (Text.dropLastWhile (· = '/') settings.url.toList) ++ "/checkv2"

/-- A header line that is only sent if there is something to send. -/
def line? (name : String) (value : Option String) : List (String × String) :=
  value.toList.map fun v => (name, v)

/-- The request for a message, at `checkUrl`. -/
def request (settings : RspamdSettings) (ctx : CheckContext) : ScanRequest where
  url := checkUrl settings
  headers :=
    [("From", ctx.message.sender.text)] ++
      ctx.message.recipients.map (fun r => ("Rcpt", r.text)) ++
      line? "Queue-Id" (some ctx.message.queueId |>.filter fun q => !q.isEmpty) ++
      line? "IP" (ctx.connection.ip.map Ip.text) ++ line? "Helo" ctx.connection.helo ++
      line? "Hostname" ctx.connection.reverseDns ++ line? "User" ctx.connection.sasl.username ++
      line? "Password" settings.password
  body := ctx.message.raw

/-- Whether a text may be the value of a header: a tab is its only control character. -/
def isHeaderValue (s : String) : Bool :=
  s.toList.all fun c => c = '\t' || (32 ≤ c.toNat && c.toNat ≠ 127)

/-- Whether a request can be sent at all: all its headers pass `isHeaderValue`. -/
def isSendable (r : ScanRequest) : Bool :=
  r.headers.all fun header => isHeaderValue header.2

/-! ### Responses -/

/-- The names of the parts of an opinion. -/
def opinionParts : List String :=
  ["score", "required_score", "action", "is_skipped", "symbols", "message_id"]

/-- Whether none of the given keys occurs twice in an object. -/
def isUnambiguous (keys : List String) : Json → Bool
  | .object fields => keys.all fun key => (fields.filter fun f => f.1 = key).length ≤ 1
  | _ => true

/-- Reads the score of a symbol. -/
def readSymbol (j : Json) : Option Float := do
  guard (Config.strictLeaves.isStructure 1 j && isUnambiguous ["score"] j)
  Config.optional Config.strictLeaves.real 0.0 (Config.part j 0 "score")

/-- Reads the symbols with their scores, each by `readSymbol`; of several with one name the last one
counts. -/
def readSymbols : Json → Option (List (String × Float))
  | .object fields =>
    (fields.mapM fun field => (readSymbol field.2).map fun score => (field.1, score)).map
      Fields.ofList
  | _ => none

/-- Reads a text or nothing. -/
def readText? : Json → Option (Option String)
  | .null => some none
  | .text s => some (some s)
  | _ => none

/-- Reads an opinion: absent `opinionParts` have their defaults, unknown ones are left out. -/
def readOpinion (j : Json) : Option ScanOpinion := do
  guard (Config.strictLeaves.isStructure 6 j && isUnambiguous opinionParts j)
  let l := Config.strictLeaves
  let d : ScanOpinion := {}
  return {
    score := ← Config.optional l.real d.score (Config.part j 0 "score")
    requiredScore := ← Config.optional l.real d.requiredScore (Config.part j 1 "required_score")
    action := ← Config.optional l.text d.action (Config.part j 2 "action")
    isSkipped := ← Config.optional l.bool d.isSkipped (Config.part j 3 "is_skipped")
    symbols := ← Config.optional readSymbols d.symbols (Config.part j 4 "symbols")
    messageId := ← Config.optional readText? d.messageId (Config.part j 5 "message_id") }

/-- The disposition that the scanner proposes; what it does not refuse it permits. -/
def actionOf (proposal : String) : Action :=
  if proposal = "reject" then .reject
  else if proposal = "soft reject" || proposal = "greylist" then .tempfail
  else .permit

/-- What the client is told about a disposition. -/
def textFor : Action → String
  | .reject => "Message rejected as spam"
  | .tempfail => "Try again later"
  | .permit | .error => ""

/-- The result that an opinion amounts to, with the disposition `actionOf` what the scanner proposes. -/
def resultOf (o : ScanOpinion) : CheckResult Float :=
  if o.isSkipped then CheckResult.permit.withFact "skipped" (.bool true)
  else
    let action := actionOf o.action
    let symbols : List (String × Json) := o.symbols.map fun s => (s.1, .ofScore s.2)
    let r := { CheckResult.new action o.score with message := textFor action }
    let r := ((r.withFact "action" (.text o.action)).withFact "required_score"
      (.ofScore o.requiredScore)).withFact "symbols" (.object symbols)
    match o.messageId with
    | some id => r.withFact "message_id" (.text id)
    | none => r

/-- The usual phrase for a status. -/
def reasonPhrase (status : Nat) : String :=
  (([(100, "Continue"), (101, "Switching Protocols"), (102, "Processing"), (200, "OK"),
    (201, "Created"), (202, "Accepted"), (203, "Non Authoritative Information"),
    (204, "No Content"), (205, "Reset Content"), (206, "Partial Content"), (207, "Multi-Status"),
    (208, "Already Reported"), (226, "IM Used"), (300, "Multiple Choices"),
    (301, "Moved Permanently"), (302, "Found"), (303, "See Other"), (304, "Not Modified"),
    (305, "Use Proxy"), (307, "Temporary Redirect"), (308, "Permanent Redirect"),
    (400, "Bad Request"), (401, "Unauthorized"), (402, "Payment Required"), (403, "Forbidden"),
    (404, "Not Found"), (405, "Method Not Allowed"), (406, "Not Acceptable"),
    (407, "Proxy Authentication Required"), (408, "Request Timeout"), (409, "Conflict"),
    (410, "Gone"), (411, "Length Required"), (412, "Precondition Failed"),
    (413, "Payload Too Large"), (414, "URI Too Long"), (415, "Unsupported Media Type"),
    (416, "Range Not Satisfiable"), (417, "Expectation Failed"), (418, "I'm a teapot"),
    (421, "Misdirected Request"), (422, "Unprocessable Entity"), (423, "Locked"),
    (424, "Failed Dependency"), (425, "Too Early"), (426, "Upgrade Required"),
    (428, "Precondition Required"), (429, "Too Many Requests"),
    (431, "Request Header Fields Too Large"), (451, "Unavailable For Legal Reasons"),
    (500, "Internal Server Error"), (501, "Not Implemented"), (502, "Bad Gateway"),
    (503, "Service Unavailable"), (504, "Gateway Timeout"), (505, "HTTP Version Not Supported"),
    (506, "Variant Also Negotiates"), (507, "Insufficient Storage"), (508, "Loop Detected"),
    (510, "Not Extended"), (511, "Network Authentication Required")] : List (Nat × String)).find?
    fun entry => entry.1 = status).map (·.2) |>.getD "<unknown status code>"

/-- The result in a response, by `readOpinion`, or what is wrong with it. -/
def readResponse (r : ScanResponse) : Except String (CheckResult Float) :=
  if 200 ≤ r.status && r.status < 300 then
    match ((Text.decode? r.body).bind Data.parse?).bind readOpinion with
    | some o => .ok (resultOf o)
    | none => .error "Failed to parse rspamd response: error decoding response body"
  else
    .error ("rspamd returned error status " ++ toString r.status ++ " " ++ reasonPhrase r.status ++
      ": " ++ Text.decodeLossy r.body)

/-! ### The checker -/

/-- How the check of a message ends when its request has the given outcome: `readResponse` reads what has
come. -/
def outcome (response : Except String ScanResponse) : CheckOutcome :=
  match response.mapError (fun reason => "rspamd request failed: " ++ reason) >>= readResponse with
  | .ok r => .opinion r
  | .error text => .failed text

/-- What comes of a request that no server answers. -/
def unreachable (r : ScanRequest) : Exchange :=
  { delayMs := 1, response := .error ("error sending request for url (" ++ r.url ++ ")") }

/-- What comes of a request: one that is not `isSendable` is not sent. -/
def send (exchange : ScanRequest → Exchange) (r : ScanRequest) : Exchange :=
  if isSendable r then exchange r else { response := .error "builder error" }

/-- The spam scanner as a checker. The way to exchange requests for responses is its parameter
`exchange`. -/
def checker {σ : Type} (exchange : ScanRequest → Exchange) (settings : RspamdSettings) :
    Checker σ where
  name := "rspamd"
  enabled := settings.enabled
  check ctx _ s :=
    let e := send exchange (request settings ctx)
    ({ delayMs := e.delayMs, outcome := outcome e.response, cancellable := true }, s)

end Rspamd

end MailFilter
