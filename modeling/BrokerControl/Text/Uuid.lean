/-!
# Random identifiers

Sixteen random bytes in the written form of an identifier that nobody else uses: groups of
lower-case hexadecimal digits, in which two places tell that the rest was drawn at random.
-/

namespace BrokerControl.Uuid

/-- The two digits of a byte. -/
def digits (b : UInt8) : List Char :=
  [Nat.digitChar (b.toNat / 16), Nat.digitChar (b.toNat % 16)]

/-- Marks bytes as drawn at random: the seventh tells the kind, the ninth the layout. -/
def marked (bytes : List UInt8) : List UInt8 :=
  (bytes.modify 6 fun b ↦ b % 16 + 0x40).modify 8 fun b ↦ b % 64 + 0x80

/-- How many bytes each group writes. -/
def groups : List Nat := [4, 2, 2, 2, 6]

/-- Bytes in groups of the given lengths. -/
def inGroups : List Nat → List UInt8 → List (List UInt8)
  | [], _ => []
  | n :: ns, bytes => bytes.take n :: inGroups ns (bytes.drop n)

/-- The identifier that sixteen random bytes make. -/
def ofBytes (bytes : List UInt8) : String :=
  "-".intercalate ((inGroups groups (marked bytes)).map fun g ↦ String.ofList (g.flatMap digits))

end BrokerControl.Uuid
