import BrokerControl.Yaml.Token

/-!
# Nodes

The tree that a list of tokens describes. Anchors are numbered by how many names were in use before
them, and an alias stands for the last node in the text that has its number. `Node.ofTokens?` gives
the one document of a stream, or no node for a stream without documents.
-/

namespace BrokerControl.Yaml

/-- A node of a document, with the number of its anchor and its tag. -/
inductive Node where
  | aliasOf (target : Nat)
  | scalar (anchor : Option Nat) (tag : Option String) (plain : Bool) (text : String)
  | sequence (anchor : Option Nat) (tag : Option String) (items : List Node)
  | mapping (anchor : Option Nat) (tag : Option String) (entries : List (Node × Node))
  deriving Inhabited

namespace Node

/-- What is left of the tokens, and the names that they refer to. -/
structure Feed where
  tokens : List Token
  /-- What each handle of a tag stands for. -/
  handles : List (String × String)
  /-- The number of each name that is in use. -/
  anchors : List (String × Nat)

/-- A reading of tokens, which may fail. -/
abbrev Read := StateT Feed Option

/-- The next token. -/
def peek : Read (Option Token) := do return (← get).tokens.head?

/-- Moves past the next token. -/
def skip : Read Unit := modify fun f ↦ { f with tokens := f.tokens.tail }

/-- Whether one of the tokens is next. -/
def nextIsOneOf (ts : List Token) : Read Bool := do return (← peek).any ts.contains

/-- The node that stands where nothing was written. -/
def nothing : Node := scalar none none true ""

/-- Brings a name into use, or back into use, and numbers it. -/
def register (name : String) : Read Nat := do
  let f ← get
  let n := f.anchors.length
  set { f with anchors := (name, n) :: f.anchors.filter fun a ↦ a.1 != name }
  return n

/-- The number of a name that is in use. -/
def number (name : String) : Read Nat := do
  match (← get).anchors.find? fun a ↦ a.1 == name with
  | some a => return a.2
  | none => failure

/-- The tag that a written one stands for. -/
def resolve (t : WrittenTag) : Read String := do
  if t.handle.isEmpty then return t.suffix
  match (← get).handles.find? fun h ↦ h.1 == t.handle with
  | some h => return h.2 ++ t.suffix
  | none => failure

/-- An anchor, if one is next. -/
def anchor : Read (Option Nat) := do
  match ← peek with
  | some (.anchor name) => do skip; return some (← register name)
  | _ => return none

/-- A tag, if one is next. -/
def tag : Read (Option String) := do
  match ← peek with
  | some (.tag t) => do skip; return some (← resolve t)
  | _ => return none

/-- An anchor and a tag in either order, as far as they are next. -/
def properties : Read (Option Nat × Option String) := do
  match ← anchor with
  | some a => return (some a, ← tag)
  | none =>
    let t ← tag
    return (← (if t.isSome then anchor else pure none), t)

mutual

/-- A node. `block` says whether it may be a block, `bare` whether it may be a sequence that is not
indented. Between two tokens at most a few calls are made, so `fuel` grows with the tokens. -/
def read (fuel : Nat) (block bare : Bool) : Read Node :=
  match fuel with
  | 0 => failure
  | fuel + 1 => do
    match ← peek with
    | some (.aliasOf name) => do skip; return .aliasOf (← number name)
    | _ =>
      let (a, t) ← properties
      match ← peek with
      | some .blockEntry =>
        if bare then return sequence a t (← bareItems fuel)
        else if a.isSome || t.isSome then return scalar a t true ""
        else failure
      | some (.scalar plain text) => do skip; return scalar a t plain text
      | some .flowSequenceStart => do skip; return sequence a t (← flowItems fuel true)
      | some .flowMappingStart => do skip; return mapping a t (← flowEntries fuel true)
      | some .blockSequenceStart =>
        if block then do skip; return sequence a t (← blockItems fuel)
        else if a.isSome || t.isSome then return scalar a t true ""
        else failure
      | some .blockMappingStart =>
        if block then do skip; return mapping a t (← blockEntries fuel)
        else if a.isSome || t.isSome then return scalar a t true ""
        else failure
      | _ => if a.isSome || t.isSome then return scalar a t true "" else failure

/-- A node that is left out if one of the tokens is next. -/
def readUnless (fuel : Nat) (ts : List Token) (block bare : Bool) : Read Node :=
  match fuel with
  | 0 => failure
  | fuel + 1 => do
    if ← nextIsOneOf ts then return nothing else read fuel block bare

/-- The items of an indented sequence, up to its end. -/
def blockItems (fuel : Nat) : Read (List Node) :=
  match fuel with
  | 0 => failure
  | fuel + 1 => do
    match ← peek with
    | some .blockEntry => do
      skip
      let item ← readUnless fuel [.blockEntry, .blockEnd] true false
      return item :: (← blockItems fuel)
    | some .blockEnd => do skip; return []
    | _ => failure

/-- The items of a sequence that is not indented. -/
def bareItems (fuel : Nat) : Read (List Node) :=
  match fuel with
  | 0 => failure
  | fuel + 1 => do
    match ← peek with
    | some .blockEntry => do
      skip
      let item ← readUnless fuel [.blockEntry, .key, .value, .blockEnd] true false
      return item :: (← bareItems fuel)
    | _ => return []

/-- The entries of a mapping that is a block, up to its end. -/
def blockEntries (fuel : Nat) : Read (List (Node × Node)) :=
  match fuel with
  | 0 => failure
  | fuel + 1 => do
    match ← peek with
    | some .key => do
      skip
      let k ← readUnless fuel [.key, .value, .blockEnd] true true
      let v ← blockValue fuel
      return (k, v) :: (← blockEntries fuel)
    | some .blockEnd => do skip; return []
    | _ => failure

/-- The value behind a colon in a block, if there is one. -/
def blockValue (fuel : Nat) : Read Node :=
  match fuel with
  | 0 => failure
  | fuel + 1 => do
    if ← nextIsOneOf [.value] then
      skip
      readUnless fuel [.key, .value, .blockEnd] true true
    else return nothing

/-- The items between square brackets, up to the closing one; all but the first follow a comma. -/
def flowItems (fuel : Nat) (first : Bool) : Read (List Node) :=
  match fuel with
  | 0 => failure
  | fuel + 1 => do
    if ← nextIsOneOf [.flowSequenceEnd] then
      skip
      return []
    if !first then
      if ← nextIsOneOf [.flowEntry] then skip else failure
    match ← peek with
    | some .flowSequenceEnd => do skip; return []
    | some .key => do
      skip
      let k ←
        if ← nextIsOneOf [.value, .flowEntry, .flowSequenceEnd] then do
          skip
          pure nothing
        else read fuel false false
      let v ← flowValue fuel [.flowEntry, .flowSequenceEnd]
      return mapping none none [(k, v)] :: (← flowItems fuel false)
    | _ =>
      let item ← read fuel false false
      return item :: (← flowItems fuel false)

/-- The entries between braces, up to the closing one; all but the first follow a comma. -/
def flowEntries (fuel : Nat) (first : Bool) : Read (List (Node × Node)) :=
  match fuel with
  | 0 => failure
  | fuel + 1 => do
    if ← nextIsOneOf [.flowMappingEnd] then
      skip
      return []
    if !first then
      if ← nextIsOneOf [.flowEntry] then skip else failure
    match ← peek with
    | some .flowMappingEnd => do skip; return []
    | some .key => do
      skip
      let k ← readUnless fuel [.value, .flowEntry, .flowMappingEnd] false false
      let v ← flowValue fuel [.flowEntry, .flowMappingEnd]
      return (k, v) :: (← flowEntries fuel false)
    | _ =>
      let k ← read fuel false false
      return (k, nothing) :: (← flowEntries fuel false)

/-- The value behind a colon between brackets, if there is one. -/
def flowValue (fuel : Nat) (ends : List Token) : Read Node :=
  match fuel with
  | 0 => failure
  | fuel + 1 => do
    if ← nextIsOneOf [.value] then
      skip
      readUnless fuel ends false false
    else return nothing

end

/-! ## Documents -/

/-- The handles that every document has. -/
def commonHandles : List (String × String) := [("!", "!"), ("!!", "tag:yaml.org,2002:")]

/-- The directives in front of a document: at most one version, which has to be 1.1 or 1.2, and
handles, each at most once. -/
def directives : List Token → Bool → List (String × String) →
    Option (List Token × List (String × String))
  | .version major minor :: ts, versioned, handles =>
    if versioned || major ≠ 1 || (minor ≠ 1 && minor ≠ 2) then none
    else directives ts true handles
  | .tagHandle handle address :: ts, versioned, handles =>
    if handles.any fun h ↦ h.1 == handle then none
    else directives ts versioned (handles ++ [(handle, address)])
  | ts, _, handles => some (ts, handles ++ commonHandles)

/-- Reads one node as a document with these handles. -/
def document? (ts : List Token) (handles : List (String × String)) (empty : Bool) :
    Option (Node × List Token) :=
  if empty then some (nothing, ts)
  else (read (8 * ts.length + 8) true false ⟨ts, handles, []⟩).map fun (n, f) ↦ (n, f.tokens)

/-- Whether a document starts with a mark or with directives. -/
def startsExplicitly : List Token → Bool
  | .version .. :: _ | .tagHandle .. :: _ | .documentStart :: _ => true
  | _ => false

/-- Whether a document that has started holds nothing. -/
def endsAtOnce : List Token → Bool
  | [] | .documentEnd :: _ => true
  | ts => startsExplicitly ts

/-- The document of a stream: no node if there is none, and nothing if there are several. -/
def ofTokens? (ts : List Token) : Option (Option Node) := do
  if ts.isEmpty then return none
  let (node, rest) ←
    if startsExplicitly ts then do
      match ← directives ts false [] with
      | (.documentStart :: ts, handles) => document? ts handles (endsAtOnce ts)
      | _ => none
    else document? ts commonHandles false
  if rest.all (· == .documentEnd) then return some node else none

end Node

end BrokerControl.Yaml
