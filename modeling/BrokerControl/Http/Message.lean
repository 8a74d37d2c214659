import BrokerControl.Http.Error
import BrokerControl.Json.Value
import BrokerControl.Url.Parser

/-!
# Messages

Requests and responses as far as the control plane needs them, and the exchange of one for the
other, which the library leaves to whoever runs it.
-/

namespace BrokerControl.Http

/-- What a request does with its target. -/
inductive Method where
  | get
  | post
  | put
  | delete
  deriving DecidableEq, Repr

namespace Method

/-- The word in the request line. -/
def text : Method → String
  | get => "GET"
  | post => "POST"
  | put => "PUT"
  | delete => "DELETE"

end Method

/-- The name and version under which requests are sent. -/
def userAgent : String := "mqctl/0.1.0"

/-- The type of every body that is sent. -/
def bodyType : String := "application/json"

/-- A request that is ready to be sent. -/
structure Request where
  method : Method
  url : Url
  /-- The values of the authorization header, which may be there more than once. -/
  authorization : List String
  body : Option Json

namespace Request

/-- The type of the body, if there is a body. -/
def contentType (r : Request) : Option String := r.body.map fun _ ↦ bodyType

end Request

/-- A response. -/
structure Response where
  status : Nat
  /-- The headers, by names of any case. -/
  headers : List (String × String)
  body : List UInt8

namespace Response

/-- The header that names the type of an error. -/
def errorTypeHeader : String := "x-amzn-errortype"

/-- The value of the first header with this name, which is given in lower case. -/
def header? (r : Response) (name : String) : Option String :=
  (r.headers.find? fun h ↦ h.1.toLower == name).map (·.2)

/-- Whether a value can be read as text: visible ASCII, spaces and tabs. -/
def isReadable (value : String) : Bool :=
  value.toList.all fun c ↦ c = '\t' || decide (0x20 ≤ c.toNat ∧ c.toNat < 0x7F)

/-- The type of the error, if its header is there and can be read. -/
def errorType (r : Response) : Option String := (r.header? errorTypeHeader).filter isReadable

/-- Whether the status is one that comes without a body. -/
def isBodiless (r : Response) : Bool := r.status = 204 || r.status = 304

/-- Whether the status is one of success. -/
def isSuccess (r : Response) : Bool := decide (200 ≤ r.status ∧ r.status < 300)

end Response

/-- Sends a request and waits for its response. -/
abbrev Exchange (m : Type → Type) := Request → m (Except ExchangeError Response)

end BrokerControl.Http
