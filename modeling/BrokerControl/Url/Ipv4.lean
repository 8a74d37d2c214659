import BrokerControl.Text.Digit
import BrokerControl.Text.Pieces

/-!
# IPv4 addresses in hosts

A host whose last part is a number is an address: one to four numbers, in octal behind a zero and
in hexadecimal behind `0x`, of which the last fills the bytes that are left.
-/

namespace BrokerControl.Ipv4

/-- A part as a number. An empty part, or one with other characters, is none. -/
def part? (cs : List Char) : Option Nat :=
  match cs with
  | '0' :: 'x' :: rest | '0' :: 'X' :: rest =>
    if rest.isEmpty then some 0 else Digit.number? 16 rest
  | '0' :: c :: rest => Digit.number? 8 (c :: rest)
  | cs => Digit.number? 10 cs

/-- The parts of a host; one empty part at the end is dropped. -/
def parts (cs : List Char) : List (List Char) :=
  let ps := Pieces.split '.' cs
  if ps.length > 1 && ps.getLast?.any List.isEmpty then ps.dropLast else ps

/-- Whether the last part of a host is a number. -/
def isMeant (cs : List Char) : Bool :=
  match (parts cs).getLast? with
  | some last => (!last.isEmpty && last.all Char.isDigit) || (part? last).isSome
  | none => false

/-- The address that the numbers of the parts make. -/
def combine? (numbers : List Nat) : Option Nat :=
  match numbers.reverse with
  | [] => none
  | last :: front =>
    if front.length > 3 || front.any (· > 255) || last ≥ Nat.pow 256 (4 - front.length) then none
    else
      let high := Digit.value 256 front.reverse
      some (high * Nat.pow 256 (4 - front.length) + last)

/-- The address that a host writes. -/
def parse? (cs : List Char) : Option Nat := do combine? (← (parts cs).mapM part?)

/-- The four bytes of an address between points. -/
def text (address : Nat) : String :=
  ".".intercalate ([0x1000000, 0x10000, 0x100, 1].map fun k ↦ toString (address / k % 256))

end BrokerControl.Ipv4
