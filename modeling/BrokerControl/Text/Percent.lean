import BrokerControl.Text.Digit
import BrokerControl.Text.Utf8

/-!
# Percent-encoding

Characters outside a set are written as `%XX`, one triplet for each byte of their UTF-8 form. The
set for components of a URL is that of the unreserved characters.
-/

namespace BrokerControl.Percent

/-- The triplet of one byte, with capital digits. -/
def triplet (b : UInt8) : List Char :=
  ['%', (Nat.digitChar (b.toNat / 16)).toUpper, (Nat.digitChar (b.toNat % 16)).toUpper]

/-- Writes every character that is not kept as triplets. -/
def encodeWith (keep : Char → Bool) (cs : List Char) : List Char :=
  cs.flatMap fun c ↦ if keep c then [c] else (Utf8.encodeChar c).flatMap triplet

/-- The characters that need no triplet in any component of a URL. -/
def isUnreserved (c : Char) : Bool :=
  c.isAlphanum || c = '-' || c = '.' || c = '_' || c = '~'

/-- A text as one component of a URL. -/
def encode (s : String) : String := String.ofList (encodeWith isUnreserved s.toList)

/-- The bytes that a text with triplets stands for; a `%` without two digits stands for itself. -/
def decode : List Char → List UInt8
  | [] => []
  | '%' :: a :: b :: rest =>
    match Digit.hex? a, Digit.hex? b with
    | some x, some y => UInt8.ofNat (x * 16 + y) :: decode rest
    | _, _ => Utf8.encodeChar '%' ++ decode (a :: b :: rest)
  | c :: rest => Utf8.encodeChar c ++ decode rest

/-- The text that a component of a URL stands for, if its bytes are UTF-8. -/
def decode? (s : String) : Option String := Utf8.text? (decode s.toList)

end BrokerControl.Percent
