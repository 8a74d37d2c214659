/-!
# Faults

What the library itself refuses: declarations it cannot send, brokers it cannot find, listings
that go in circles. Each cause has one sentence for the user.
-/

namespace BrokerControl

/-- A refusal of the library, with its cause. -/
inductive Fault where
  /-- The authentication strategy is one that is not supported. -/
  | unsupportedStrategy (strategy : String)
  /-- A creation without a security group. -/
  | missingSecurityGroup
  /-- An update that gives a parameter of creations. -/
  | creationOnlyOnUpdate (parameter : String)
  /-- Neither an identifier nor a name was given. -/
  | missingIdentity
  /-- The declaration names no broker. -/
  | missingBrokerName
  /-- No broker has the name. -/
  | notFound (name : String)
  /-- The text names no goal. -/
  | invalidGoal (text : String)
  /-- A listing returned a continuation token that was followed before. -/
  | repeatedToken (token : String)
  deriving DecidableEq, Repr

namespace Fault

/-- The sentence for the user. -/
def message : Fault → String
  | unsupportedStrategy s => s!"'AuthenticationStrategy={s}' not supported, yet"
  | missingSecurityGroup => "At least one security group must be specified on broker creation"
  | creationOnlyOnUpdate p => s!"'{p}' can only be set when the broker is created"
  | missingIdentity => "Either 'broker_id' or 'broker_name' must be specified"
  | missingBrokerName => "'broker_name' is required"
  | notFound n => s!"Cannot find broker with name {n}."
  | invalidGoal t =>
    s!"Invalid broker state requested ({t}). Valid are: 'present', 'absent', 'restarted'"
  | repeatedToken t => s!"Listing returned continuation token '{t}' twice"

end Fault

end BrokerControl
