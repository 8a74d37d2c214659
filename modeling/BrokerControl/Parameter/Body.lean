import BrokerControl.Fault
import BrokerControl.Parameter.Table

/-!
# Bodies of requests

A declaration is a flat map from parameters to values; a body is the nested object that the control
plane takes. `Table.body` makes one from the other, `Table.creationBody` adds what a creation needs
and refuses what it cannot carry, `Table.updateBody` is what an update sends. A null counts as not
given, and parameters without a path are left out.
-/

namespace BrokerControl

/-- A flat map from parameters to values. -/
abbrev Declaration := Object

/-- The nested object of a request. -/
abbrev Body := Object

/-- The value that a declaration gives a parameter; a null gives none. -/
def Declaration.given? (d : Declaration) (key : String) : Option Json :=
  (Object.get? d key).filter fun v ↦ !v.isNull

/-- Which entries go into a body. -/
structure BodyRule where
  /-- Start from the defaults of the table. -/
  withDefaults : Bool
  /-- Leave out the parameters of creations. -/
  dropCreationOnly : Bool
  deriving DecidableEq, Repr

namespace BodyRule

/-- The rule for creations. -/
def creation : BodyRule := ⟨true, false⟩

/-- The rule for updates. -/
def update : BodyRule := ⟨false, true⟩

end BodyRule

namespace Table

variable (t : Table)

/-- The body with one parameter set, if the table has a path for it. -/
def set? (body : Body) (key : String) (value : Json) : Option Body :=
  (t.path? key).map fun p ↦ p.write value body

/-- The body with one parameter set, or as it was if the table has no path for it. -/
def set (body : Body) (key : String) (value : Json) : Body := (t.set? body key value).getD body

/-- The body with these parameters set in turn. -/
def setAll (body : Body) (entries : List (String × Json)) : Body :=
  entries.foldl (fun b f ↦ t.set b f.1 f.2) body

/-- The defaults that a body starts from. -/
def seeds (rule : BodyRule) : List (String × Json) := if rule.withDefaults then t.defaults else []

/-- Whether an entry of a declaration goes into a body: a null does not, nor does a parameter
without a path, nor, where the rule leaves them out, a parameter of creations. -/
def admits (rule : BodyRule) (entry : String × Json) : Bool :=
  !entry.2.isNull && (t.path? entry.1).isSome &&
    !(rule.dropCreationOnly && t.isCreationOnly entry.1)

/-- The entries of a declaration that go into a body. -/
def admitted (rule : BodyRule) (declaration : Declaration) : List (String × Json) :=
  (Object.ordered declaration).filter (t.admits rule)

/-- The body of a declaration: the defaults, if the rule starts from them, and over them what the
declaration gives. -/
def body (rule : BodyRule) (declaration : Declaration) : Body :=
  t.setAll (t.setAll [] (t.seeds rule)) (t.admitted rule declaration)

/-- The first of the `names`, in the order of keys, that a declaration gives a value. -/
def forbidden? (names : List String) (declaration : Declaration) : Option String :=
  ((Object.ordered declaration).find? fun f ↦ !f.2.isNull && names.contains f.1).map (·.1)

/-- Refuses a declaration that gives one of the `names` a value. -/
def checkUpdate (names : List String) (declaration : Declaration) : Except Fault Unit :=
  match forbidden? names declaration with
  | some key => .error (.creationOnlyOnUpdate key)
  | none => .ok ()

/-! ## Creations -/

/-- The strategy of a body, if it is one that the table refuses. -/
def refusedStrategy? (body : Body) : Option String :=
  ((Object.get? body "AuthenticationStrategy").bind Json.string?).filter
    fun s ↦ t.refusedStrategies.contains s

/-- A body without users gets the default user. -/
def withUsers (body : Body) : Body :=
  if Object.contains body "Users" then body else t.set body "users" (.array [t.defaultUser])

/-- An encryption key of one's own switches the provider's key off. -/
def settleKey (body : Body) : Body :=
  match Object.get? body "EncryptionOptions" with
  | some (.object options) =>
    if ((Object.get? options "KmsKeyId").filter fun v ↦ !v.isNull).isSome then
      Object.insert body "EncryptionOptions"
        (.object (Object.insert options "UseAwsOwnedKey" (.bool false)))
    else body
  | _ => body

/-- Whether a body lists at least one security group. -/
def hasSecurityGroup (body : Body) : Bool :=
  match (Object.get? body "SecurityGroups").bind Json.array? with
  | some (_ :: _) => true
  | _ => false

/-- The body of a creation: refused strategies come first, then missing security groups. -/
def creationBody (declaration : Declaration) : Except Fault Body :=
  let body := t.body .creation declaration
  match t.refusedStrategy? body with
  | some strategy => .error (.unsupportedStrategy strategy)
  | none =>
    let body := settleKey (t.withUsers body)
    if hasSecurityGroup body then .ok body else .error .missingSecurityGroup

/-! ## Updates -/

/-- The body of an update: no defaults, no parameters of creations, and no name, since the
identifier travels in the request's path. -/
def updateBody (declaration : Declaration) : Body :=
  let body := t.body .update declaration
  match t.path? nameKey with
  | some p => Object.erase body p.root
  | none => body

end Table

end BrokerControl
