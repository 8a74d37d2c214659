/-!
# Punycode

International labels in ASCII: the ASCII characters of a label, then numbers that say which other
characters go where. A number is written digit by digit in base 36, with thresholds that adapt to
the numbers before it. `decode?` reads a label and `encode` writes one.
-/

namespace BrokerControl.Punycode

/-- The base of the digits. -/
def base : Nat := 36

/-- The value of a digit of either case. -/
def digit? (c : Char) : Option Nat :=
  if 'a' ≤ c ∧ c ≤ 'z' then some (c.toNat - 'a'.toNat)
  else if 'A' ≤ c ∧ c ≤ 'Z' then some (c.toNat - 'A'.toNat)
  else if c.isDigit then some (c.toNat - '0'.toNat + 26)
  else none

/-- The digit with a value. -/
def digitOf (n : Nat) : Char :=
  Char.ofNat (if n < 26 then 'a'.toNat + n else '0'.toNat + (n - 26))

/-- Halves a delta until it is in reach of the thresholds; `steps` counts the steps. -/
def settle (delta steps : Nat) : Nat :=
  if 455 < delta then settle (delta / 35) (steps + base)
  else steps + 36 * delta / (delta + 38)
termination_by delta
decreasing_by omega

/-- The bias before the first number. -/
def firstBias : Nat := 72

/-- The bias after a delta that placed the last of `points` characters. -/
def adapt (delta points : Nat) (first : Bool) : Nat :=
  let d := if first then delta / 700 else delta / 2
  settle (d + d / points) 0

/-- The threshold of the digit at place `k`, which counts in steps of the base. -/
def threshold (k bias : Nat) : Nat := if k ≤ bias then 1 else min 26 (k - bias)

/-- Reads one number; what is left of the digits comes second. -/
def number? (bias : Nat) : Nat → Nat → Nat → List Char → Option (Nat × List Char)
  | _, _, _, [] => none
  | k, weight, sum, c :: cs => do
    let d ← digit? c
    let t := threshold k bias
    if d < t then return (sum + d * weight, cs)
    number? bias (k + base) (weight * (base - t)) (sum + d * weight) cs

/-- The code of the first character beyond ASCII. -/
def firstCode : Nat := 0x80

/-- Places one character after another: `code` is that of the last one, `place` lies behind it. -/
def place? : Nat → Nat → Nat → Nat → List Char → List Char → Option (List Char)
  | 0, _, _, _, _, _ => none
  | fuel + 1, code, place, bias, out, cs => do
    if cs.isEmpty then return out
    let (delta, cs) ← number? bias base 1 0 cs
    let points := out.length + 1
    -- Every turn around the label raises the code by one.
    let code := code + (place + delta) / points
    let spot := (place + delta) % points
    if !code.isValidChar then none
    place? fuel code (spot + 1) (adapt delta points (place = 0))
      (out.take spot ++ Char.ofNat code :: out.drop spot) cs

/-- What stands before the last hyphen, and what follows it. -/
def splitLast (cs : List Char) : List Char × List Char :=
  let back := cs.reverse.takeWhile (· ≠ '-')
  let front := cs.take (cs.length - back.length - 1)
  if front.isEmpty then ([], cs) else (front, back.reverse)

/-- How many characters may be decoded. -/
def longestDecoded : Nat := 2000

/-- The label that `cs` encodes, unless it is too long. -/
def decode? (cs : List Char) : Option (List Char) :=
  if longestDecoded < cs.length then none
  else
    let (plain, digits) := splitLast cs
    place? (digits.length + 1) firstCode 0 firstBias plain digits

/-- Writes one number. -/
def digits (bias : Nat) : Nat → Nat → Nat → List Char
  | 0, _, _ => []
  | fuel + 1, k, n =>
    let t := threshold k bias
    if n < t then [digitOf n]
    else digitOf (t + (n - t) % (base - t)) :: digits bias fuel (k + base) ((n - t) / (base - t))

/-- The state of an encoding that has come to one code. -/
structure Writing where
  delta : Nat
  bias : Nat
  /-- How many characters were placed. -/
  placed : Nat
  /-- Whether a number was written. -/
  started : Bool
  out : List Char

/-- Goes over the label once for one code: characters before it count, those with it are placed. -/
def sweep (code : Nat) (w : Writing) (c : Char) : Writing :=
  if c.toNat < code then { w with delta := w.delta + 1 }
  else if c.toNat = code then
    { delta := 0
      bias := adapt w.delta (w.placed + 1) (!w.started)
      placed := w.placed + 1
      started := true
      out := w.out ++ digits w.bias (w.delta + 1) base w.delta }
  else w

/-- Goes over the label for one code after another, from `code` on. -/
def sweeps (label : List Char) : Nat → Nat → Writing → Writing
  | 0, _, w => w
  | fuel + 1, code, w =>
    match ((label.map Char.toNat).filter (code ≤ ·)).min? with
    | none => w
    | some m =>
      let w := { w with delta := w.delta + (m - code) * (w.placed + 1) }
      let w := label.foldl (sweep m) w
      sweeps label fuel (m + 1) { w with delta := w.delta + 1 }

/-- A label in ASCII. -/
def encode (label : List Char) : List Char :=
  let plain := label.filter fun c ↦ decide (c.toNat < firstCode)
  let out := if plain.isEmpty then [] else plain ++ ['-']
  (sweeps label (label.length + 1) firstCode ⟨0, firstBias, plain.length, false, out⟩).out

/-- How many characters may be encoded. -/
def longestEncoded : Nat := 1000

/-- A label in ASCII, unless it is too long. -/
def encode? (label : List Char) : Option (List Char) :=
  if longestEncoded < label.length then none else some (encode label)

end BrokerControl.Punycode
