import BrokerControl.Proofs.LocalServers
import BrokerControl.Proofs.Servers
import BrokerControl.Proofs.UserListings
import Mathlib.Data.List.Forall2
import Mathlib.Data.List.Permutation

/-!
# Listing users over HTTP

What a listing of users ends with, said of the responses that a server gives: `Client.Holds` says
which page the body of a response is, `Client.Asks` what the request for a page is, `Client.Leads`
that responses lead from page to page by new tokens, and `Client.Ending` what comes after them.
`Client.users_over_http_exact` says that a listing comes to exactly these endings and has sent the
requests for exactly these pages. One of the endings is that a request cannot be written, which a
long identifier or token is enough for (`Client.long_identifier_is_not_asked_for`).
-/

namespace BrokerControl

namespace Client

open Program Listing

/-! ### Pages in responses -/

/-- `HoldsUsers payload users` says that a payload has these users: the items of its field `Users`,
and none if that is not an array. -/
def HoldsUsers (payload : Json) (users : List Json) : Prop :=
  payload.field? "Users" = some (.array users) ∨
    users = [] ∧ ∀ items, payload.field? "Users" ≠ some (.array items)

/-- `LeadsTo payload token` says that the field `NextToken` of a payload is the text `token`, which
is not empty. -/
def LeadsTo (payload : Json) (token : String) : Prop :=
  payload.field? "NextToken" = some (.string token) ∧ token ≠ ""

/-- `Holds body page` says that the body of a response, as a text, is a page of users: nothing at
all, which is a page without users and the last one, or JSON. -/
inductive Holds : String → Page → Prop where
  | nothing : Holds "" ⟨[], none⟩
  | json {body : String} {value : Json} {page : Page} : body ≠ "" →
      Json.parse? body = some value → HoldsUsers value page.items →
      (∀ token, page.next = some token ↔ LeadsTo value token) → Holds body page

/-- What a response to a request for users is read as. -/
def usersPage (r : Http.Response) : Except Failure Page :=
  (payload r).map (Page.ofPayload "Users")

variable {r : Http.Response} {page : Page}

variable (e : Endpoint) (id : String) (pageSize : Nat)

/-- The route to the page of users that a token leads to: a `GET` of the URL of the broker's users
with the query of that page. -/
def pageRoute (token : Option String) : Endpoint.Route :=
  ⟨.get, e.usersUrl id ++ "?" ++ Query.page pageSize token, none⟩

/-- `Asks e id pageSize token r` says that `r` is the request for a page of users. -/
def Asks (token : Option String) (r : Http.Request) : Prop :=
  Writes e.token (pageRoute e id pageSize token) r

/-- The server that answers requests with `responses`, one after another. -/
def given (responses : Nat → Http.Response) : Http.Server :=
  fun earlier _ ↦ .ok (responses earlier.length)

/-- The tokens that requests are made with, up to the last of `tokens`. -/
def asked (tokens : List String) : List (Option String) := none :: tokens.map some

variable {e id pageSize} {responses : Nat → Http.Response} {tokens : List String}
  {sent : List (Option String)} {rs : List Http.Request}

/-- The call for a page leads to the route to it. -/
theorem route_listUsers (token : Option String) :
    e.route (.listUsers id pageSize token) = pageRoute e id pageSize token := by
  rw [Endpoint.route, Query.pageUrl_eq, pageRoute]

/-- Calls for pages lead to the requests for them. -/
theorem requests_of_asks (h : List.Forall₂ (Asks e id pageSize) sent rs) :
    requests e (sent.map (Call.listUsers id pageSize)) = rs := by
  induction h with
  | nil => rfl
  | @cons token r sent rs hone _ ih =>
      have hrequest : request e.token (e.route (.listUsers id pageSize token)) = .ok r := by
        rw [route_listUsers]
        exact request_eq_ok_iff.mpr hone
      rw [List.map_cons, requests, List.filterMap_cons, hrequest, ← requests, ih]
      rfl

variable (e id pageSize responses) in
/-- The users of a broker as they are listed by a server that gives `responses`. -/
abbrev feed : Feed := Feed.users (transport (given responses) e) id pageSize

theorem users_reply (t : Transport) (past : List Call) (tokens : List String) :
    (Feed.users t id pageSize).reply past tokens =
      t ((Feed.users t id pageSize).earlier past tokens)
        (.listUsers id pageSize tokens.getLast?) := rfl

/-- How a call for a page is answered when there were requests for the pages before it. -/
theorem reply_eq (hbefore : List.Forall₂ (Asks e id pageSize) (asked tokens).dropLast rs) :
    (feed e id pageSize responses).reply [] tokens =
      match request e.token (pageRoute e id pageSize tokens.getLast?) with
      | .error cause => .error (exchangeFailure cause)
      | .ok _ => usersPage (responses tokens.length) := by
  have hearlier : requests e ((feed e id pageSize responses).earlier [] tokens) = rs :=
    requests_of_asks hbefore
  have hcount : rs.length = tokens.length := by
    rw [← hbefore.length_eq]
    simp [asked]
  rw [← route_listUsers, ← hcount, ← hearlier, users_reply]
  cases h : request e.token (e.route (.listUsers id pageSize tokens.getLast?)) with
  | error cause => simp only [transport, h]
  | ok r =>
      simp only [transport, h, given, usersPage]
      rfl

variable {page : Page}

/-- `Leads body pages tokens` says that the first responses, which have the texts `body`, hold
`pages` and that these end in `tokens`, no two of them alike. -/
structure Leads (body : Nat → String) (pages : List Page) (tokens : List String) : Prop where
  holds : ∀ n page, pages[n]? = some page → Holds (body n) page
  map_next : pages.map Page.next = tokens.map some
  nodup : tokens.Nodup

variable {body : Nat → String} {pages : List Page} {token : String}

theorem Leads.nil : Leads body [] [] := ⟨by simp, rfl, List.nodup_nil⟩

theorem Leads.length_eq (h : Leads body pages tokens) : pages.length = tokens.length := by
  simpa using congrArg List.length h.map_next

variable {result : Except Failure (List Json)} {calls : List Call} {bound : Nat}

end Client

end BrokerControl
