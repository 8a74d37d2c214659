import BrokerControl.Text.Digit

/-!
# IPv6 addresses in hosts

Eight groups of four hexadecimal digits between colons; one run of zero groups may be left out, and
the last two groups may be written as four decimal bytes.
-/

namespace BrokerControl.Ipv6

/-- How many groups an address has. -/
def groupCount : Nat := 8

/-- A decimal byte without a leading zero, and what is left. -/
def byte? (cs : List Char) : Option (Nat × List Char) := do
  let digits := cs.takeWhile Char.isDigit
  let n ← Digit.number? 10 digits
  if n > 255 || (digits.length > 1 && digits.head? == some '0') then none
  return (n, cs.dropWhile Char.isDigit)

/-- Four decimal bytes between points, as two groups. -/
def bytes? (cs : List Char) : Option (Nat × Nat) := do
  let next (cs : List Char) : Option (Nat × List Char) :=
    match cs with
    | '.' :: rest => byte? rest
    | _ => none
  let (a, cs) ← byte? cs
  let (b, cs) ← next cs
  let (c, cs) ← next cs
  let (d, cs) ← next cs
  if cs.isEmpty then return (a * 256 + b, c * 256 + d) else none

/-- Reads groups. `read` holds those that were read, the latest first, and `gap` how many stood
before the groups that are left out. A single colon may not end the address. -/
def groups? : Nat → List Nat → Option Nat → List Char → Option (List Nat × Option Nat)
  | 0, _, _, _ => none
  | fuel + 1, read, gap, cs =>
    match cs with
    | [] => some (read.reverse, gap)
    | ':' :: rest =>
      if read.length ≥ groupCount || gap.isSome then none
      else groups? fuel read (some read.length) rest
    | cs =>
      let digits := (cs.take 4).takeWhile fun c ↦ (Digit.hex? c).isSome
      let rest := cs.drop digits.length
      let value := (Digit.number? 16 digits).getD 0
      if read.length + (if gap.isSome then 1 else 0) ≥ groupCount then none
      else match rest with
        | [] => some ((value :: read).reverse, gap)
        -- The digits were those of a decimal byte, and four bytes fill two groups.
        | '.' :: _ => do
          if digits.isEmpty || read.length + (if gap.isSome then 1 else 0) > 6 then none
          let (high, low) ← bytes? cs
          return ((low :: high :: read).reverse, gap)
        | ':' :: more => if more.isEmpty then none else groups? fuel (value :: read) gap more
        | _ => none

/-- The groups of the address that `cs` writes. -/
def parse? (cs : List Char) : Option (List Nat) := do
  let (read, gap) ←
    match cs with
    | ':' :: ':' :: rest => groups? (cs.length + 1) [] (some 0) rest
    | ':' :: _ | [] | [_] => none
    | cs => groups? (cs.length + 1) [] none cs
  match gap with
  | some k =>
    if read.length ≥ groupCount then none
    else return read.take k ++ List.replicate (groupCount - read.length) 0 ++ read.drop k
  | none => if read.length = groupCount then return read else none

/-- The length of the run of zeros in front. -/
def zerosInFront (groups : List Nat) : Nat := (groups.takeWhile (· = 0)).length

/-- Where the longest run of at least two zero groups starts, and how long it is. -/
def longestZeros (groups : List Nat) : Option (Nat × Nat) :=
  let runs := (List.range groups.length).map fun i ↦ (i, zerosInFront (groups.drop i))
  let best := runs.foldl (fun b r ↦ if b.2 < r.2 then r else b) (0, 0)
  if best.2 ≥ 2 then some best else none

/-- A group without leading zeros. -/
def groupText (n : Nat) : String := String.ofList (Nat.toDigits 16 n)

/-- The groups between colons; the longest run of zero groups is left out. -/
def text (groups : List Nat) : String :=
  let join (gs : List Nat) := ":".intercalate (gs.map groupText)
  match longestZeros groups with
  | some (i, n) => join (groups.take i) ++ "::" ++ join (groups.drop (i + n))
  | none => join groups

end BrokerControl.Ipv6
