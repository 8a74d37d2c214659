import BrokerControl.Failure

/-!
# Reports

What the user is told of a failure. Of an error of the control plane only the status counts: the
outermost sentence is followed by a fixed one, so nothing that the server said gets through. Any
other failure is told in full, in printable characters and up to a limit.
-/

namespace BrokerControl

namespace ServiceError

/-- The fixed sentence for a status. -/
def advice (status : Nat) : String :=
  if status = 400 then "Invalid request. Check your parameters."
  else if status = 401 then "Authentication failed. Check your endpoint token."
  else if status = 403 then "Permission denied. Check your IAM permissions."
  else if status = 404 then "Resource not found."
  else if status = 409 then
    "Resource conflict. The broker may already exist or be in a transitional state."
  else if status = 429 then "Rate limit exceeded. Please try again later."
  else if 500 ≤ status ∧ status ≤ 599 then
    "Broker service temporarily unavailable. Please try again."
  else "Request failed. Check your network connection and try again."

end ServiceError

namespace Failure

/-- What the user is told. -/
def report (f : Failure) : String :=
  match f.cause with
  | .service e => s!"{f.outermost}: {ServiceError.advice e.status}"
  | _ => Printable.abridge (": ".intercalate f.chain)

end Failure

end BrokerControl
