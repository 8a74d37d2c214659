import BrokerControl.Text.Digit
import BrokerControl.Text.Pieces
import BrokerControl.Url.International.Mapping
import BrokerControl.Url.International.Properties

/-!
# Reading runs

The tables of characters in domain names, as lists of runs: what becomes of a character, and which
properties it has.
-/

namespace BrokerControl.International

/-- A hexadecimal number, zero where there is none. -/
def hex (cs : List Char) : Nat := (Digit.number? 16 cs).getD 0

/-- The entries of a table. -/
def entries (table : List String) : List (List Char) :=
  table.flatMap fun line ↦ Pieces.split ' ' line.toList

/-- What stands before and behind the first colon. -/
def atColon (cs : List Char) : List Char × List Char :=
  (cs.takeWhile (· ≠ ':'), (cs.dropWhile (· ≠ ':')).drop 1)

/-! ## Mappings -/

/-- A run of characters to which the same happens. -/
structure MappingRun where
  kind : Char
  length : Nat
  targets : List Nat

/-- The runs of the mapping, from U+0080 on. -/
def mapping (_ : Unit) : List MappingRun :=
  (entries mappingRuns).map fun entry ↦
    let (front, back) := atColon entry
    let length := front.drop 1
    ⟨front.headD 'X', if length.isEmpty then 1 else hex length,
      if back.isEmpty then [] else (Pieces.split ',' back).map hex⟩

/-- What becomes of the character number `offset` of a run; nothing if it may not stand in a name.
-/
def MappingRun.apply (r : MappingRun) (offset : Nat) (c : Char) : Option (List Char) :=
  if r.kind = 'V' then some [c]
  else if r.kind = 'I' then some []
  else if r.kind = 'P' then some [if offset % 2 = 0 then Char.ofNat (c.toNat + 1) else c]
  else if r.kind = 'S' then some (r.targets.map fun t ↦ Char.ofNat (t + offset))
  else if r.kind = 'M' then some (r.targets.map Char.ofNat)
  else none

/-- Looks a character up in runs that start at the code `start`. -/
def mappedFrom (c : Char) : Nat → List MappingRun → Option (List Char)
  | _, [] => none
  | start, r :: more =>
    if c.toNat < start + r.length then r.apply (c.toNat - start) c
    else mappedFrom c (start + r.length) more

/-- What becomes of a character; nothing if it may not stand in a name. -/
def mapped (runs : List MappingRun) (c : Char) : Option (List Char) :=
  if c.toNat < 0x80 then some [c.toLower] else mappedFrom c 0x80 runs

/-! ## Properties -/

/-- A run of characters with one property. -/
structure PropertyRun where
  first : Nat
  last : Nat
  property : List Char

/-- The runs of a table, the next of which is counted from the code `start`. -/
def propertyRunsFrom : Nat → List (List Char) → List PropertyRun
  | _, [] => []
  | start, entry :: more =>
    let (front, property) := atColon entry
    let gap := front.takeWhile (· ≠ '+')
    let length := front.drop (gap.length + 1)
    let first := start + hex gap
    let next := first + (if length.isEmpty then 1 else hex length)
    ⟨first, next - 1, property⟩ :: propertyRunsFrom next more

/-- The runs of a table. -/
def propertyRuns (table : List String) : List PropertyRun := propertyRunsFrom 0 (entries table)

/-- The property of a character, if it stands in a run. -/
def property? (runs : List PropertyRun) (c : Char) : Option (List Char) :=
  (runs.find? fun r ↦ decide (r.first ≤ c.toNat ∧ c.toNat ≤ r.last)).map (·.property)

/-! ## Pairs -/

/-- A character that stands for two. -/
structure CharPair where
  first : Nat
  second : Nat
  both : Nat

/-- The pairs of a table; `second` is the one that was named last. -/
def pairsFrom (second : Nat) : List (List Char) → List CharPair
  | [] => []
  | ('=' :: cs) :: more => pairsFrom (hex cs) more
  | entry :: more =>
    let (first, both) := atColon entry
    ⟨hex first, second, hex both⟩ :: pairsFrom second more

/-- All pairs. -/
def pairs (_ : Unit) : List CharPair := pairsFrom 0 (entries pairRuns)

end BrokerControl.International
