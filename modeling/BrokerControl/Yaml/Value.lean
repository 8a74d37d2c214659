import BrokerControl.Decimal.Reading
import BrokerControl.Json.Value
import BrokerControl.Yaml.Node

/-!
# YAML as JSON

What a document means as a JSON value. Plain scalars are nulls, booleans and numbers by their form;
known tags force a form, local tags have none in JSON. Keys are texts, and the last value of a
repeated key stays. `parse?` reads a whole text.
-/

namespace BrokerControl.Yaml

/-! ## Scalars -/

/-- The spellings of null. -/
def isNull (s : String) : Bool := s = "null" || s = "Null" || s = "NULL" || s = "~"

/-- The spellings of the truth values. -/
def bool? (s : String) : Option Bool :=
  if s = "true" || s = "True" || s = "TRUE" then some true
  else if s = "false" || s = "False" || s = "FALSE" then some false
  else none

/-- Whether `cs` begins with a sign. -/
def isSigned (cs : List Char) : Bool := cs.head? == some '+' || cs.head? == some '-'

/-- Behind a sign, a zero in front of further digits: such a text is no number. -/
def hasLeadingZero (cs : List Char) : Bool :=
  let cs := if isSigned cs then cs.drop 1 else cs
  cs.length > 1 && cs.head? == some '0' && cs.all Char.isDigit

/-- The number that `cs` writes without a sign: hexadecimal, octal or binary behind its mark, or
decimal. -/
def unsigned? (cs : List Char) : Option Nat :=
  match cs with
  | '0' :: 'x' :: rest => Digit.number? 16 rest
  | '0' :: 'o' :: rest => Digit.number? 8 rest
  | '0' :: 'b' :: rest => Digit.number? 2 rest
  | cs => Digit.number? 10 cs

/-- An integer; a plus sign may stand in front of any form. -/
def integer? (cs : List Char) : Option Int :=
  if hasLeadingZero cs then none
  else match cs with
    | '+' :: rest => (unsigned? rest).map fun n ↦ (n : Int)
    | '-' :: rest => (unsigned? rest).map fun n ↦ -(n : Int)
    | cs => (unsigned? cs).map fun n ↦ (n : Int)

/-- The digits of a decimal without its sign: whole part, fraction, exponent. -/
def unsignedDecimal? (cs : List Char) : Option Float := do
  let whole := cs.takeWhile Char.isDigit
  let cs := cs.dropWhile Char.isDigit
  let (fraction, cs) := match cs with
    | '.' :: rest => (rest.takeWhile Char.isDigit, rest.dropWhile Char.isDigit)
    | cs => ([], cs)
  let significand ← Digit.number? 10 (whole ++ fraction)
  let exponent ← match cs with
    | [] => some 0
    | c :: rest => if c = 'e' || c = 'E' then exponent? rest else none
  Decimal.nearest significand (exponent - fraction.length)
where
  /-- An exponent with an optional sign. -/
  exponent? : List Char → Option Int
    | '+' :: cs => (Digit.number? 10 cs).map fun n ↦ (n : Int)
    | '-' :: cs => (Digit.number? 10 cs).map fun n ↦ -(n : Int)
    | cs => (Digit.number? 10 cs).map fun n ↦ (n : Int)

/-- Whether `s` is infinity or no number in one of their spellings; in JSON these are null. -/
def isNonFinite (s : String) : Bool :=
  let unsigned := [".inf", ".Inf", ".INF"]
  (unsigned ++ unsigned.map ("+" ++ ·) ++ unsigned.map ("-" ++ ·)
    ++ [".nan", ".NaN", ".NAN"]).contains s

/-- A double, finite or null. -/
def float? (s : String) : Option Json :=
  if isNonFinite s then some .null
  else match s.toList with
    | '+' :: cs => if isSigned cs then none else finite cs
    | '-' :: cs => (unsignedDecimal? cs).map fun x ↦ .number (.float (-x))
    | cs => finite cs
where
  /-- A decimal without a sign. -/
  finite (cs : List Char) : Option Json :=
    (unsignedDecimal? cs).map fun x ↦ .number (.float x)

/-- What becomes of an integer: those of 64 bits are kept, those of 128 bits are an error, and
larger ones are no integers. -/
inductive IntegerFit where
  | kept (n : Int)
  | tooLarge
  | none

/-- The integer that `s` writes, if it does. -/
def integerFit (s : String) : IntegerFit :=
  match integer? s.toList with
  | some n =>
    if -0x8000000000000000 ≤ n ∧ n ≤ 0xFFFFFFFFFFFFFFFF then .kept n
    else if -0x80000000000000000000000000000000 ≤ n ∧ n ≤ 0xFFFFFFFFFFFFFFFFFFFFFFFFFFFFFFFF then
      .tooLarge
    else .none
  | none => .none

/-- A plain scalar without a tag. -/
def plainValue? (s : String) : Option Json :=
  if s.isEmpty || isNull s then some .null
  else match bool? s with
    | some b => some (.bool b)
    | none => match integerFit s with
      | .kept n => some (.number (.int n))
      | .tooLarge => none
      | .none =>
        if hasLeadingZero s.toList then some (.string s)
        else some ((float? s).getD (.string s))

/-- Whether a tag is local to an application. -/
def isLocalTag (tag : String) : Bool := tag.toList.head? == some '!'

/-- A scalar with its tag. -/
def scalarValue? (tag : Option String) (plain : Bool) (s : String) : Option Json :=
  match tag with
  | none => if plain then plainValue? s else some (.string s)
  | some t =>
    if isLocalTag t then none
    else if t = "tag:yaml.org,2002:bool" then (bool? s).map .bool
    else if t = "tag:yaml.org,2002:int" then
      match integerFit s with
      | .kept n => some (.number (.int n))
      | _ => none
    else if t = "tag:yaml.org,2002:float" then float? s
    else if t = "tag:yaml.org,2002:null" then if isNull s then some .null else none
    else some (.string s)

/-! ## Nodes -/

namespace Node

mutual

/-- The nodes that carry an anchor, in the order of the text. -/
def anchored : Node → List (Nat × Node)
  | aliasOf _ => []
  | scalar a t p s => named a (scalar a t p s)
  | sequence a t items => named a (sequence a t items) ++ anchoredItems items
  | mapping a t entries => named a (mapping a t entries) ++ anchoredEntries entries

/-- The same for a list of nodes. -/
def anchoredItems : List Node → List (Nat × Node)
  | [] => []
  | n :: more => anchored n ++ anchoredItems more

/-- The same for a list of keys and values. -/
def anchoredEntries : List (Node × Node) → List (Nat × Node)
  | [] => []
  | (k, v) :: more => anchored k ++ anchored v ++ anchoredEntries more

/-- A node with its anchor, if it has one. -/
def named (a : Option Nat) (n : Node) : List (Nat × Node) :=
  match a with
  | some i => [(i, n)]
  | none => []

end

mutual

/-- How many marks a node takes in a stream: one, or a start and an end with what is between. -/
def marks : Node → Nat
  | aliasOf _ => 1
  | scalar .. => 1
  | sequence _ _ items => 2 + marksOfItems items
  | mapping _ _ entries => 2 + marksOfEntries entries

/-- The same for a list of nodes. -/
def marksOfItems : List Node → Nat
  | [] => 0
  | n :: more => marks n + marksOfItems more

/-- The same for a list of keys and values. -/
def marksOfEntries : List (Node × Node) → Nat
  | [] => 0
  | (k, v) :: more => marks k + marks v + marksOfEntries more

end

/-- A reading that may follow as many aliases as its state says. -/
abbrev Follow := StateT Nat Option

/-- The node that an alias stands for: the last one with its number. -/
def target (anchors : List (Nat × Node)) (i : Nat) : Follow Node := do
  match ← get with
  | 0 => failure
  | left + 1 =>
    set left
    match anchors.reverse.find? fun a ↦ a.1 == i with
    | some a => return a.2
    | none => failure

/-- The node itself, or the one that it is an alias of. -/
def followed (anchors : List (Nat × Node)) : Node → Follow Node
  | aliasOf i => target anchors i
  | n => pure n

/-- The text of a key, which has to be a scalar. -/
def keyText (anchors : List (Nat × Node)) (n : Node) : Follow String := do
  match ← followed anchors n with
  | scalar _ _ _ s => return s
  | _ => failure

/-- The value of a node that opens at most `depth` collections inside each other. -/
def value (anchors : List (Nat × Node)) : Nat → Node → Follow Json
  | depth, n => do
    match ← followed anchors n with
    | aliasOf _ => failure
    | scalar _ tag plain s => liftOption (scalarValue? tag plain s)
    | sequence _ tag items =>
      match depth with
      | 0 => failure
      | depth + 1 =>
        if tag.any isLocalTag then failure
        return .array (← items.mapM (value anchors depth))
    | mapping _ tag entries =>
      match depth with
      | 0 => failure
      | depth + 1 =>
        if tag.any isLocalTag then failure
        let fields ← entries.mapM fun (k, v) ↦ do
          let key ← keyText anchors k
          return (key, ← value anchors depth v)
        return .object (Object.ofList fields)
where
  /-- A result that follows no alias. -/
  liftOption (r : Option Json) : Follow Json := fun left ↦ r.map fun v ↦ (v, left)

/-- How deep collections may nest. -/
def deepest : Nat := 128

/-- How many aliases are followed for each mark of a document. -/
def aliasesPerMark : Nat := 100

/-- The value of a document. -/
def toJson? (n : Node) : Option Json :=
  ((value n.anchored deepest n).run (n.marks * aliasesPerMark)).map (·.1)

end Node

/-- The value of a text with one document, null for a text without any. -/
def parse? (text : String) : Option Json := do
  match ← Node.ofTokens? (← Token.scan? text) with
  | some n => n.toJson?
  | none => return .null

end BrokerControl.Yaml
