/-!
# Base64

Bytes as signs that any header can hold: three bytes are four signs of six bits each, and equals
signs fill up the last four.
-/

namespace BrokerControl.Base64

/-- The signs, in the order of what they stand for. -/
def signs : List Char := "ABCDEFGHIJKLMNOPQRSTUVWXYZabcdefghijklmnopqrstuvwxyz0123456789+/".toList

/-- What fills up the last four signs. -/
def filler : Char := '='

/-- The sign for six bits. -/
def sign (n : Nat) : Char := signs.getD (n % 64) filler

/-- Bytes as signs. -/
def encode : List UInt8 → List Char
  | a :: b :: c :: rest =>
    let n := a.toNat * 0x10000 + b.toNat * 0x100 + c.toNat
    sign (n / 0x40000) :: sign (n / 0x1000) :: sign (n / 0x40) :: sign n :: encode rest
  | [a, b] =>
    let n := a.toNat * 0x400 + b.toNat * 4
    [sign (n / 0x1000), sign (n / 0x40), sign n, filler]
  | [a] =>
    let n := a.toNat * 0x10
    [sign (n / 0x40), sign n, filler, filler]
  | [] => []

end BrokerControl.Base64
