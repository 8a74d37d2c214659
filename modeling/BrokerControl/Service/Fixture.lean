import BrokerControl.Service.Program

/-!
# Canned control planes

A control plane that answers from tables: pages by the token that asks for them, descriptions by
identifier, one payload for each operation that changes something, and failures by operation.
-/

namespace BrokerControl

namespace Call

/-- The name of an operation, under which a fixture lists its failure. -/
def name : Call → String
  | listBrokers .. => "list_brokers"
  | describe _ => "describe_broker"
  | create _ => "create_broker"
  | update .. => "update_broker"
  | delete _ => "delete_broker"
  | reboot _ => "reboot_broker"
  | listUsers .. => "list_users"

/-- A call as a list: its name, then its arguments. -/
def entry (c : Call) : Json :=
  let limited (limit : Nat) (token : Option String) : List Json :=
    [.number (.int limit), Json.ofOption token]
  .array (.string c.name :: match c with
    | listBrokers limit token => limited limit token
    | describe id | delete id | reboot id => [.string id]
    | create body => [body]
    | update id body => [.string id, body]
    | listUsers id limit token => .string id :: limited limit token)

end Call

/-- The tables of a canned control plane. -/
structure Fixture where
  /-- The pages of brokers, each with the token that asks for it. -/
  brokerPages : List (Option String × Page)
  /-- The pages of users, each with the token that asks for it. -/
  userPages : List (Option String × Page)
  /-- The description of each broker by its identifier. -/
  descriptions : Object
  /-- The payload of each operation that changes something, by the operation's name. -/
  payloads : Object
  /-- The operations that fail, by name. -/
  failures : List (String × Failure)

namespace Fixture

/-- The fixture that knows nothing. -/
def empty : Fixture := ⟨[], [], [], [], []⟩

/-- The first page that the token asks for. -/
def page? (pages : List (Option String × Page)) (token : Option String) : Option Page :=
  (pages.find? fun p ↦ p.1 == token).map (·.2)

/-- The payload of an operation, null if there is none. -/
def payload (fx : Fixture) (operation : String) : Json :=
  (Object.get? fx.payloads operation).getD .null

/-- The answer to a call that does not fail. -/
def served (fx : Fixture) : (c : Call) → Except Failure c.Answer
  | .listBrokers _ token => .ok ((page? fx.brokerPages token).getD ⟨[], none⟩)
  | .listUsers _ _ token =>
    match page? fx.userPages token with
    | some page => .ok page
    | none =>
      let shown := token.getD "none"
      .error (.ofCause (.plain s!"unexpected users page token: {shown}"))
  | .describe id =>
    match Object.get? fx.descriptions id with
    | some description => .ok description
    | none => .error (.ofCause (.plain s!"no such broker: {id}"))
  | .create _ => .ok (fx.payload "create")
  | .update .. => .ok (fx.payload "update")
  | .delete _ => .ok (fx.payload "delete")
  | .reboot _ => .ok (fx.payload "reboot")

/-- The answer to a call. -/
def answer (fx : Fixture) (c : Call) : Except Failure c.Answer :=
  match Object.get? fx.failures c.name with
  | some f => .error f
  | none => fx.served c

end Fixture

end BrokerControl
