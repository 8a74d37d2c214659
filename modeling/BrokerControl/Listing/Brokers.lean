import BrokerControl.Listing.Pages

/-!
# Finding a broker

The identifier of the broker with a given name. Names are compared exactly; the first summary that
has the name and an identifier wins, and no page after it is asked for.
-/

namespace BrokerControl

namespace Listing

/-- How many summaries a page of brokers may hold. -/
def brokerPageSize : Nat := 100

/-- The identifier in a summary, if the summary is of the broker called `name`. -/
def identifier? (name : String) (summary : Json) : Option String :=
  if summary.fieldString? "BrokerName" = some name then summary.fieldString? "BrokerId" else none

/-- Looks for the name on one page. -/
def lookFor (name : String) (_ : Unit) (page : Page) : Option String ⊕ Unit :=
  match page.items.findSome? (identifier? name) with
  | some id => .inl (some id)
  | none => .inr ()

/-- Asks for one page of brokers. -/
def brokerPage (token : Option String) : Program Page :=
  .call "Couldn't list brokers" (.listBrokers brokerPageSize token)

/-- The identifier of the broker called `name`, if there is one, reading at most `bound` pages. -/
def findBrokerWithin (bound : Nat) (name : String) : Program (Option String) :=
  walk brokerPage (lookFor name) (fun _ ↦ none) bound Cursor.start ()

/-- The identifier of the broker called `name`, if there is one. -/
def findBroker (name : String) : Program (Option String) := findBrokerWithin pageBound name

end Listing

end BrokerControl
