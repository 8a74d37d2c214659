import BrokerControl.Json.Reader
import BrokerControl.Text.Pieces
import BrokerControl.Text.Printable

/-!
# Errors of the control plane

An answer with a status that is no success, reduced to its status, a code and a message. The code
comes from a header or from the body, the message from the body; a body that has none is shown as
an excerpt. The status and the code say whether the caller should slow down or may try again.
-/

namespace BrokerControl

/-- An answer of the control plane with a status that is no success. -/
structure ServiceError where
  status : Nat
  code : Option String
  message : String
  deriving DecidableEq, Repr

namespace ServiceError

/-- The code in the error-type header: what stands before the first colon, if anything does. -/
def headerCode? (errorType : Option String) : Option String :=
  (errorType.map (Pieces.beforeFirst ':')).filter fun c ↦ !c.isEmpty

/-- The code in a body: what follows the last `#` of the type, or of the code if there is no type.
-/
def bodyCode? (body : Json) : Option String :=
  (((body.field? "__type").or (body.field? "code")).bind Json.string?).map (Pieces.afterLast '#')

/-- The message in a body, under either spelling; the first one that is there decides. -/
def bodyMessage? (body : Json) : Option String :=
  ((body.field? "message").or (body.field? "Message")).bind Json.string?

/-- The error that an answer stands for. -/
def ofResponse (status : Nat) (errorType : Option String) (body : String) : ServiceError :=
  let parsed := Json.parse? body
  { status
    code := (headerCode? errorType).or (parsed.bind bodyCode?)
    message := (parsed.bind bodyMessage?).getD (Printable.excerpt body) }

/-- Whether `part` occurs in `cs`. -/
def occurs (part : List Char) : List Char → Bool
  | [] => part.isEmpty
  | c :: cs => part.isPrefixOf (c :: cs) || occurs part cs

/-- Whether a code asks the caller to slow down. -/
def isThrottlingCode (code : String) : Bool :=
  occurs "Throttl".toList code.toList || code == "TooManyRequestsException"

/-- Whether the control plane asks the caller to slow down. -/
def isThrottled (e : ServiceError) : Bool := e.status == 429 || e.code.any isThrottlingCode

/-- Whether the same request may succeed later. -/
def isRetryable (e : ServiceError) : Bool :=
  e.isThrottled || decide (500 ≤ e.status ∧ e.status < 600)

/-- The code as it is shown. -/
def shownCode (e : ServiceError) : String := e.code.getD "Unknown"

/-- The sentence for a log. -/
def display (e : ServiceError) : String :=
  s!"API request failed: {e.status} ({e.shownCode}): {e.message}"

end ServiceError

end BrokerControl
