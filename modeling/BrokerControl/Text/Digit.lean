/-!
# Digits

The values of decimal and hexadecimal digits, and of runs of them.
-/

namespace BrokerControl.Digit

/-- The value of a decimal digit. -/
def decimal? (c : Char) : Option Nat := if c.isDigit then some (c.toNat - '0'.toNat) else none

/-- The value of a hexadecimal digit of either case. -/
def hex? (c : Char) : Option Nat :=
  if c.isDigit then some (c.toNat - '0'.toNat)
  else if 'a' ≤ c ∧ c ≤ 'f' then some (c.toNat - 'a'.toNat + 10)
  else if 'A' ≤ c ∧ c ≤ 'F' then some (c.toNat - 'A'.toNat + 10)
  else none

/-- The value of a digit in a base of at most sixteen. -/
def inBase? (base : Nat) (c : Char) : Option Nat :=
  (hex? c).bind fun d ↦ if d < base then some d else none

/-- The number that a list of digit values writes in the given base. -/
def value (base : Nat) (ds : List Nat) : Nat := ds.foldl (fun n d ↦ n * base + d) 0

/-- The number that `cs` writes in the given base; nothing for other characters or no digits. -/
def number? (base : Nat) (cs : List Char) : Option Nat :=
  if cs.isEmpty then none else (cs.mapM (inBase? base)).map (value base)

/-- The bytes that pairs of hexadecimal digits write. -/
def bytes? : List Char → Option (List UInt8)
  | [] => some []
  | a :: b :: rest => do
    let x ← hex? a
    let y ← hex? b
    let more ← bytes? rest
    return UInt8.ofNat (x * 16 + y) :: more
  | _ => none

end BrokerControl.Digit
