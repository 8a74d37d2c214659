import BrokerControl.Failure
import BrokerControl.Http.Endpoint
import BrokerControl.Service.Program
import BrokerControl.Text.Base64

/-!
# The client

Answers calls by exchanges of messages. A request has to have a URL with a host, a scheme that can
be spoken and headers that can be written; a response has to succeed and to hold JSON, or nothing,
which counts as null. `Client.answer` makes a control plane of an exchange.
-/

namespace BrokerControl

namespace Client

/-- Whether a header's value can be written: no controls but the tab. -/
def isWritable (value : String) : Bool :=
  value.toList.all fun c ↦ c = '\t' || (decide (0x20 ≤ c.toNat) && c.toNat != 0x7F)

/-- How many bytes a URL in a message may have. -/
def longestUrl : Nat := 65534

/-- Whether a message can name a URL. -/
def isNameable (u : Url) : Bool :=
  decide (u.text.utf8ByteSize ≤ longestUrl) && u.host.all fun h ↦
    match h with
    | .domain name => name.toList.all fun c ↦ !"\"\x7b\x7d`".toList.contains c
    | _ => true

/-- The value of the authorization header for a token. -/
def bearer (token : String) : String := "Bearer " ++ token

/-- The value of the authorization header for a name and a password. -/
def basic (credentials : String × Option String) : String :=
  let (name, password) := credentials
  "Basic " ++ String.ofList
    (Base64.encode (Utf8.encode (name ++ ":" ++ password.getD "").toList))

/-- The values of the authorization header: for the credentials in the URL, and for the token. -/
def authorization (url : Url) (token : Option String) : List String :=
  (url.credentials?.map basic).toList ++ (token.map bearer).toList

/-- Whether requests can be sent under a scheme. -/
def isSpoken (scheme : String) : Bool := scheme = "http" || scheme = "https"

/-- The request of a route, or why there is none. Credentials inside the URL are taken out of it and
told in a header. -/
def request (token : Option String) (r : Endpoint.Route) : Except ExchangeError Http.Request := do
  let url ← (Url.parse r.url).mapError .badUrl
  if url.host.isNone then .error (.badScheme url.text)
  let values := authorization url token
  let url := url.withoutCredentials
  -- The order matters: of two faults the first one found is told.
  if !values.all isWritable then .error .badHeader
  if !isSpoken url.scheme then .error (.badScheme url.text)
  if !isNameable url then .error (.unwritable url.text)
  return ⟨r.method, url, values, r.body⟩

/-- The failure of an exchange, under what was being done. -/
def exchangeFailure (e : ExchangeError) : Failure :=
  match e with
  | .brokenBody _ => ⟨["Failed to read response body"], .exchange e⟩
  | _ => ⟨["Failed to send request"], .exchange e⟩

/-- The payload of a response. -/
def payload (r : Http.Response) : Except Failure Json :=
  let body := Utf8.textWithMarks r.body
  if !r.isSuccess then .error (.ofCause (.service (.ofResponse r.status r.errorType body)))
  else if body.isEmpty then .ok .null
  else match Json.parse? body with
    | some v => .ok v
    | none => .error ⟨["Failed to parse response JSON"], .json⟩

/-- The answer to a call in the payload of its response. -/
def answerOf : (c : Call) → Json → c.Answer
  | .listBrokers .., v => Page.ofPayload "BrokerSummaries" v
  | .listUsers .., v => Page.ofPayload "Users" v
  | .describe _, v => v
  | .create _, v => v
  | .update .., v => v
  | .delete _, v => v
  | .reboot _, v => v

variable {m : Type → Type} [Monad m]

/-- Sends the request of a route and reads the payload of its response. -/
def send (exchange : Http.Exchange m) (token : Option String) (r : Endpoint.Route) :
    m (Except Failure Json) :=
  match request token r with
  | .error e => pure (.error (exchangeFailure e))
  | .ok request => do
    match ← exchange request with
    | .error e => return .error (exchangeFailure e)
    | .ok response => return payload response

/-- Answers a call by an exchange with an endpoint. -/
def answer (exchange : Http.Exchange m) (e : Endpoint) (c : Call) :
    m (Except Failure c.Answer) := do
  return (← send exchange e.token (e.route c)).map (answerOf c)

end Client

end BrokerControl
