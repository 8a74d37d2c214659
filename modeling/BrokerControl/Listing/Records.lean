import BrokerControl.Json.Value

/-!
# Records

Records are JSON values of any shape. They can be sieved by what one of their fields says and keyed
by the text in one of their fields; records without that text stay, or are left out of the keyed
form.
-/

namespace BrokerControl

/-- Removes the records whose field holds the given text. -/
structure RecordFilter where
  field : String
  value : String
  deriving DecidableEq, Repr

namespace RecordFilter

/-- Users that are still to be created. -/
def pendingCreation : RecordFilter := ⟨"PendingChange", "CREATE"⟩

/-- Users that are still to be deleted. -/
def pendingDeletion : RecordFilter := ⟨"PendingChange", "DELETE"⟩

/-- Whether the filter removes a record. -/
def rejects (f : RecordFilter) (record : Json) : Bool := record.fieldString? f.field == some f.value

end RecordFilter

namespace Records

/-- The records that no filter removes, in their order. -/
def sieve (filters : List RecordFilter) (records : List Json) : List Json :=
  records.filter fun r ↦ !filters.any fun f ↦ f.rejects r

/-- The records by the text in one field; of several with one text the last stays. -/
def keyBy (field : String) (records : List Json) : Object :=
  Object.ofList (records.filterMap fun r ↦ (r.fieldString? field).map fun key ↦ (key, r))

end Records

end BrokerControl
