import BrokerControl.Http.Message

/-!
# Scripted servers

A server that answers the n-th request with the n-th reply of a list and keeps the requests. It may
close the connection before an answer or inside one; once the list has come to its end it says so.
Where no server can be connected to, every request meets what the system says of that.
-/

namespace BrokerControl.Http

/-- What a scripted server does with one request. -/
inductive Reply where
  /-- It answers; `missing` bytes of the body that it announces never come. -/
  | answer (response : Response) (missing : Nat)
  /-- It closes the connection. -/
  | drop

/-- A scripted server: what is left of its list, and the requests so far, the latest first. -/
structure Script where
  /-- Why the server cannot be connected to, in the words of the system; nothing if it can. -/
  obstacle : Option String
  replies : List Reply
  requests : List Request

namespace Script

/-- The answer after the last reply. -/
def exhausted : Response := ⟨599, [], Utf8.encode "script exhausted".toList⟩

/-- What arrives of an answer. -/
def arrived (url : Url) (response : Response) (missing : Nat) : Except ExchangeError Response :=
  if response.isBodiless then .ok { response with body := [] }
  else if 0 < missing then .error (.brokenBody url.text)
  else .ok response

/-- Answers one request. -/
def exchange : Exchange (StateM Script) := fun request ↦ do
  let s ← get
  if let some sentence := s.obstacle then
    return .error (.unconnected request.url.text sentence)
  set { s with replies := s.replies.tail, requests := request :: s.requests }
  match s.replies with
  | [] => return .ok exhausted
  | .drop :: _ => return .error (.dropped request.url.text)
  | .answer response missing :: _ => return arrived request.url response missing

end Script

end BrokerControl.Http
