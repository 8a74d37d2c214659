import BrokerControl.Http.Message
import BrokerControl.Service.Call
import BrokerControl.Text.Percent

/-!
# Endpoints

Where a control plane is spoken to, and how each call is addressed there: a method, a URL and a
body. Identifiers and tokens are percent-encoded, so that the URL tells the call and its arguments.
-/

namespace BrokerControl

/-- The address of a control plane, and the token it is spoken to with. -/
structure Endpoint where
  /-- The address without slashes at its end. -/
  base : String
  token : Option String
  deriving DecidableEq, Repr

namespace Endpoint

/-- The endpoint at an address, which may end in slashes. -/
def ofText (address : String) (token : Option String) : Endpoint :=
  ⟨String.ofList (address.toList.reverse.dropWhile (· = '/')).reverse, token⟩

variable (e : Endpoint)

/-- The URL of all brokers. -/
def brokersUrl : String := e.base ++ "/v1/brokers"

/-- The URL of one broker. -/
def brokerUrl (id : String) : String := e.brokersUrl ++ "/" ++ Percent.encode id

/-- The URL of the users of a broker. -/
def usersUrl (id : String) : String := e.brokerUrl id ++ "/users"

/-- The URL that reboots a broker. -/
def rebootUrl (id : String) : String := e.brokerUrl id ++ "/reboot"

/-- The URL of one page of a listing. -/
def pageUrl (url : String) (limit : Nat) (token : Option String) : String :=
  url ++ "?maxResults=" ++ toString limit ++
    match token with
    | some t => "&nextToken=" ++ Percent.encode t
    | none => ""

/-- How a call is addressed. -/
structure Route where
  method : Http.Method
  url : String
  body : Option Json

/-- The method, URL and body of a call. -/
def route : Call → Route
  | .listBrokers limit token => ⟨.get, pageUrl e.brokersUrl limit token, none⟩
  | .describe id => ⟨.get, e.brokerUrl id, none⟩
  | .create body => ⟨.post, e.brokersUrl, some body⟩
  | .update id body => ⟨.put, e.brokerUrl id, some body⟩
  | .delete id => ⟨.delete, e.brokerUrl id, none⟩
  | .reboot id => ⟨.post, e.rebootUrl id, none⟩
  | .listUsers id limit token => ⟨.get, pageUrl (e.usersUrl id) limit token, none⟩

end Endpoint

end BrokerControl
