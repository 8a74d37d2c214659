import BrokerControl.Listing.Pages
import BrokerControl.Listing.Records

/-!
# Listing users

All users of a broker, page by page; a listing that fails anywhere gives no users at all. A query
may leave out users with a pending change, and may ask for the users by name.
-/

namespace BrokerControl

/-- How the users of a broker are listed. -/
structure UserQuery where
  pageSize : Nat
  skipPendingCreation : Bool
  skipPendingDeletion : Bool
  /-- By name instead of in the order of the pages. -/
  byName : Bool
  deriving DecidableEq, Repr

namespace UserQuery

/-- How many users a page holds if nothing else is asked for. -/
def defaultPageSize : Nat := 100

/-- The filters that a query asks for. -/
def filters (q : UserQuery) : List RecordFilter :=
  (if q.skipPendingCreation then [.pendingCreation] else []) ++
    if q.skipPendingDeletion then [.pendingDeletion] else []

/-- The answer to a query about these users. -/
def present (q : UserQuery) (users : List Json) : Json :=
  let kept := Records.sieve q.filters users
  if q.byName then .object (Records.keyBy "Username" kept) else .array kept

end UserQuery

namespace Listing

/-- Asks for one page of users. -/
def userPage (id : String) (pageSize : Nat) (token : Option String) : Program Page :=
  .call "Failed to describe users" (.listUsers id pageSize token)

/-- Adds the users of one page. -/
def gather (users : List Json) (page : Page) : List Json ⊕ List Json := .inr (users ++ page.items)

/-- All users of a broker in the order of the pages, reading at most `bound` pages. -/
def allUsersWithin (bound : Nat) (id : String) (pageSize : Nat) : Program (List Json) :=
  walk (userPage id pageSize) gather (fun users ↦ users) bound Cursor.start []

/-- All users of a broker in the order of the pages. -/
def allUsers (id : String) (pageSize : Nat) : Program (List Json) :=
  allUsersWithin pageBound id pageSize

/-- The users of a broker as a query asks for them, reading at most `bound` pages. -/
def usersWithin (bound : Nat) (id : String) (q : UserQuery) : Program Json := do
  return q.present (← allUsersWithin bound id q.pageSize)

/-- The users of a broker as a query asks for them. -/
def users (id : String) (q : UserQuery) : Program Json := usersWithin pageBound id q

end Listing

end BrokerControl
