import BrokerControl.Json.Value
import BrokerControl.Text.Pieces

/-!
# Paths into a body

Where a parameter stands inside a nested body: a key, or a key inside an object under another one.
A path has at least one segment by its type, so its root always exists. Writing makes the objects
on the way and replaces what is no object; reading gives nothing where the way ends early.
-/

namespace BrokerControl

/-- A path: the key at the top of the body, and the keys below it. -/
structure Path where
  root : String
  below : List String
  deriving DecidableEq, Repr, Inhabited

namespace Path

/-- What separates the segments of a written path. -/
def separator : Char := '/'

/-- The keys, outermost first. -/
def segments (p : Path) : List String := p.root :: p.below

/-- The written form. -/
def text (p : Path) : String :=
  String.ofList (Pieces.join separator (p.segments.map String.toList))

/-- The path that `spec` writes: segments between slashes, none of them empty. -/
def parse? (spec : String) : Option Path :=
  let pieces := Pieces.split separator spec.toList
  if pieces.any List.isEmpty then none
  else match pieces.map String.ofList with
    | [] => none
    | root :: below => some ⟨root, below⟩

/-- What is said of a text that writes no path. -/
def refusal (spec : String) : String := s!"Invalid field path '{spec}'"

/-- The path that `spec` writes, or what is said of it if it writes none. -/
def ofText (spec : String) : Except String Path :=
  match parse? spec with
  | some p => .ok p
  | none => .error (refusal spec)

/-- The fields of the object under `key`, none if there is no object. -/
def child (body : Object) (key : String) : Object :=
  ((Object.get? body key).bind Json.object?).getD []

/-- Sets the value below `key`, then `below`, making objects on the way. -/
def writeAt (value : Json) : String → List String → Object → Object
  | key, [], body => Object.insert body key value
  | key, next :: below, body =>
    Object.insert body key (.object (writeAt value next below (child body key)))

/-- The value below `key`, then `below`. -/
def readAt : String → List String → Object → Option Json
  | key, [], body => Object.get? body key
  | key, next :: below, body =>
    ((Object.get? body key).bind Json.object?).bind (readAt next below)

/-- The body with `value` at the path; an existing value is replaced, siblings stay. -/
def write (p : Path) (value : Json) (body : Object) : Object := writeAt value p.root p.below body

/-- The value at the path. -/
def read (p : Path) (body : Object) : Option Json := readAt p.root p.below body

/-- What was written below some keys is read there. -/
@[simp] theorem readAt_writeAt (v : Json) (key : String) (below : List String) (body : Object) :
    readAt key below (writeAt v key below body) = some v := by
  induction below generalizing key body with
  | nil => simp [readAt, writeAt]
  | cons next below ih => simp [readAt, writeAt, Json.object?, ih]

/-- What was written at a path is read there. -/
@[simp] theorem read_write (p : Path) (v : Json) (body : Object) :
    p.read (p.write v body) = some v :=
  readAt_writeAt v p.root p.below body

end Path

end BrokerControl
