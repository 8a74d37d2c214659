/-!
# UTF-8

Text to bytes and back. `decode` reads well-formed sequences only; each part that is none yields
one gap, where a part is the longest start of a sequence that was not completed. `text?` accepts
bytes without gaps, `textWithMarks` writes U+FFFD into them.
-/

namespace BrokerControl.Utf8

/-- The bytes of one character. -/
def encodeChar (c : Char) : List UInt8 :=
  let n := c.toNat
  let tail (k : Nat) : UInt8 := UInt8.ofNat (0x80 + n / k % 64)
  if n < 0x80 then [UInt8.ofNat n]
  else if n < 0x800 then [UInt8.ofNat (0xC0 + n / 64), tail 1]
  else if n < 0x10000 then [UInt8.ofNat (0xE0 + n / 4096), tail 64, tail 1]
  else [UInt8.ofNat (0xF0 + n / 262144), tail 4096, tail 64, tail 1]

/-- The bytes of a text. -/
def encode (cs : List Char) : List UInt8 := cs.flatMap encodeChar

/-- How many bytes a text has. -/
def size (cs : List Char) : Nat := (encode cs).length

/-- Whether `b` lies between the bounds. -/
def within (low high : Nat) (b : UInt8) : Bool := decide (low ≤ b.toNat ∧ b.toNat ≤ high)

/-- The bits that a byte after the first carries. -/
def payload (b : UInt8) : Nat := b.toNat % 64

/-- The bounds of the second byte after the first byte `a` of a sequence of three or four: no
longer form than needed, no surrogate, nothing above U+10FFFF. -/
def secondBounds (a : UInt8) : Nat × Nat :=
  if a.toNat = 0xE0 then (0xA0, 0xBF)
  else if a.toNat = 0xED then (0x80, 0x9F)
  else if a.toNat = 0xF0 then (0x90, 0xBF)
  else if a.toNat = 0xF4 then (0x80, 0x8F)
  else (0x80, 0xBF)

/-- Whether `b` may stand second after `a`. -/
def isSecond (a b : UInt8) : Bool := within (secondBounds a).1 (secondBounds a).2 b

/-- Whether `b` may stand after the first byte of a sequence. -/
def isTail (b : UInt8) : Bool := within 0x80 0xBF b

/-- The characters of a run of bytes, with a gap for each part that is no sequence. -/
def decode : List UInt8 → List (Option Char)
  | [] => []
  | a :: s =>
    if a.toNat < 0x80 then some (Char.ofNat a.toNat) :: decode s
    else if within 0xC2 0xDF a then
      match s with
      | [] => [none]
      | b :: s =>
        if isTail b then some (Char.ofNat ((a.toNat - 0xC0) * 64 + payload b)) :: decode s
        else none :: decode (b :: s)
    else if within 0xE0 0xEF a then
      match s with
      | [] => [none]
      | b :: s =>
        if isSecond a b then
          match s with
          | [] => [none]
          | c :: s =>
            if isTail c then
              some (Char.ofNat ((a.toNat - 0xE0) * 4096 + payload b * 64 + payload c)) :: decode s
            else none :: decode (c :: s)
        else none :: decode (b :: s)
    else if within 0xF0 0xF4 a then
      match s with
      | [] => [none]
      | b :: s =>
        if isSecond a b then
          match s with
          | [] => [none]
          | c :: s =>
            if isTail c then
              match s with
              | [] => [none]
              | d :: s =>
                if isTail d then
                  some (Char.ofNat ((a.toNat - 0xF0) * 262144 + payload b * 4096 + payload c * 64
                    + payload d)) :: decode s
                else none :: decode (d :: s)
            else none :: decode (c :: s)
        else none :: decode (b :: s)
    else none :: decode s
termination_by s => s.length

/-- The text that the bytes encode, if they are UTF-8 throughout. -/
def text? (bytes : List UInt8) : Option String := ((decode bytes).mapM id).map String.ofList

/-- The character that marks a gap. -/
def gapMark : Char := '\uFFFD'

/-- The text of the bytes, with a mark for each gap. -/
def textWithMarks (bytes : List UInt8) : String :=
  String.ofList ((decode bytes).map fun c ↦ c.getD gapMark)

end BrokerControl.Utf8
