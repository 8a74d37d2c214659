import BrokerControl.Json.Value

/-!
# Calls of the control plane

The seven operations that the library asks of a control plane, and what each is answered with: a
listing with a page, every other operation with a payload that is passed on as it is.
-/

namespace BrokerControl

/-- One page of a listing: its records, and the token that asks for the next page. -/
structure Page where
  items : List Json
  next : Option String
  deriving Inhabited

namespace Page

/-- The page in the payload of a listing, whose records stand in the field `itemsField`. A missing
list of records is an empty one, and an empty token is none. -/
def ofPayload (itemsField : String) (payload : Json) : Page where
  items := ((payload.field? itemsField).bind Json.array?).getD []
  next := (payload.fieldString? "NextToken").filter fun t ↦ !t.isEmpty

end Page

/-- A call of the control plane. -/
inductive Call where
  | listBrokers (limit : Nat) (token : Option String)
  | describe (id : String)
  | create (body : Json)
  | update (id : String) (body : Json)
  | delete (id : String)
  | reboot (id : String)
  | listUsers (id : String) (limit : Nat) (token : Option String)

namespace Call

/-- What a call is answered with. -/
@[reducible] def Answer : Call → Type
  | listBrokers .. => Page
  | listUsers .. => Page
  | _ => Json

/-- Whether a call changes something. -/
def mutates : Call → Bool
  | create _ | update .. | delete _ | reboot _ => true
  | _ => false

end Call

end BrokerControl
