import BrokerControl.Goal
import BrokerControl.Listing.Brokers
import BrokerControl.Parameter.Body

/-!
# Bringing a broker to a goal

`converge` looks the broker up by name on every run and then creates, updates, deletes or reboots
it. All that can be refused without the control plane is refused before anything is changed, and a
dry run makes the same calls but for the one that changes something. `describe` shows a broker.
Both are cases of forms that bound the pages read to find a name (`convergeWithin`,
`describeWithin`).
-/

namespace BrokerControl

/-- What an update does with parameters that only a creation can carry. -/
inductive UpdatePolicy where
  /-- It leaves them out. -/
  | drop
  /-- It refuses the declaration. -/
  | reject
  deriving DecidableEq, Repr

/-- How a run goes about its goal. -/
structure RunOptions where
  /-- Change nothing. -/
  dryRun : Bool
  policy : UpdatePolicy
  /-- The region in the name that a dry run makes up. -/
  region : String
  /-- The identifier that a dry run makes up. -/
  placeholderId : String
  deriving DecidableEq, Repr

/-- What a run ended with: what the control plane said, and whether the run counts as a change. -/
structure Outcome where
  broker : Json
  changed : Bool

namespace Outcome

/-- Every run that reached the control plane counts as a change. -/
def ofChange (broker : Json) : Outcome := ⟨broker, true⟩

/-- An outcome as a value. -/
def toJson (o : Outcome) : Json := .object [("broker", o.broker), ("changed", .bool o.changed)]

end Outcome

/-- The region that is meant when none is given. -/
def defaultRegion : String := "us-east-1"

namespace RunOptions

/-- The identity that a dry run gives the broker it would create. -/
def placeholder (o : RunOptions) (name : String) : Json :=
  let region := if o.region.isEmpty then defaultRegion else o.region
  let arn := s!"arn:aws:mq:{region}:000000000000:broker:{name}:{o.placeholderId}"
  .object [("BrokerArn", .string arn), ("BrokerId", .string o.placeholderId)]

end RunOptions

namespace Broker

variable (t : Table) (o : RunOptions)

/-- The description of a broker. -/
def details (id : String) : Program Json := .call "Couldn't get broker details" (.describe id)

/-- Creates a broker, once its body has been accepted. -/
def create (name : String) (declaration : Declaration) : Program Outcome := do
  let body ← .ofResult (t.creationBody declaration)
  if o.dryRun then return .ofChange (o.placeholder name)
  return .ofChange (← .call "Couldn't create broker" (.create (.object body)))

/-- Updates a broker, once the policy has accepted the declaration. -/
def update (id : String) (declaration : Declaration) : Program Outcome := do
  -- The check comes before the dry run ends, so that a dry run fails where a real one would.
  if o.policy = .reject then .ofResult (Table.checkUpdate t.creationOnly declaration)
  if o.dryRun then return .ofChange (.object [("BrokerId", .string id)])
  let body := t.updateBody declaration
  return .ofChange (← .call "Couldn't update broker" (.update id (.object body)))

/-- Deletes a broker; the outcome is what it was before. -/
def delete (id : String) : Program Outcome := do
  let description ← details id
  unless o.dryRun do
    let _ ← Program.call "Couldn't delete broker" (.delete id)
  return .ofChange description

/-- Reboots a broker; the outcome is what it was afterwards. -/
def reboot (id : String) : Program Outcome := do
  unless o.dryRun do
    let _ ← Program.call "Couldn't reboot broker" (.reboot id)
  return .ofChange (← details id)

/-- The name that a declaration gives; an empty one is none. -/
def name? (declaration : Declaration) : Option String :=
  ((Object.get? declaration Table.nameKey).bind Json.string?).filter fun n ↦ !n.isEmpty

/-- What is left to do once the broker was looked for. -/
def act (goal : Goal) (name : String) (declaration : Declaration) :
    Option String → Program Outcome
  | none => match goal with
    | .present => create t o name declaration
    | .absent | .restarted => .refuse (.notFound name)
  | some id => match goal with
    | .present => update t o id declaration
    | .absent => delete o id
    | .restarted => reboot o id

/-- Brings the declared broker to a goal, reading at most `bound` pages to find it. -/
def convergeWithin (bound : Nat) (goal : Goal) (declaration : Declaration) : Program Outcome :=
  match name? declaration with
  | none => .refuse .missingBrokerName
  | some name => do act t o goal name declaration (← Listing.findBrokerWithin bound name)

/-- Brings the declared broker to a goal. -/
def converge (goal : Goal) (declaration : Declaration) : Program Outcome :=
  convergeWithin t o Listing.pageBound goal declaration

/-- The description of the broker with this identifier, or else with this name; empty texts count
as not given. At most `bound` pages are read to find a name. -/
def describeWithin (bound : Nat) (id name : Option String) : Program Json :=
  match id.filter (!·.isEmpty), name.filter (!·.isEmpty) with
  | some id, _ => details id
  | none, some name => do
    match ← Listing.findBrokerWithin bound name with
    | some id => details id
    | none => .refuse (.notFound name)
  | none, none => .refuse .missingIdentity

/-- The description of the broker with this identifier, or else with this name. -/
def describe (id name : Option String) : Program Json := describeWithin Listing.pageBound id name

end Broker

end BrokerControl
