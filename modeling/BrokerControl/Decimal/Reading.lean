/-!
# Reading decimals into doubles

Two ways to read `significand · 10^exponent`. `quick` rounds the significand once and then
multiplies or divides by one power of ten, so its last bit may differ from the nearest double;
`nearest` rounds the exact value once. Both refuse a value that overflows to infinity.
-/

namespace BrokerControl.Decimal

/-- The double next to `10^k`. -/
def tenPower (k : Nat) : Float := Float.ofScientific 1 false k

/-- The largest power of ten that is finite. -/
def largestTenPower : Nat := 308

/-- `f / 10^k`, in steps of at most `10^308`. -/
def divideByTenPower (f : Float) (k : Nat) : Float :=
  if k ≤ largestTenPower then f / tenPower k
  else if f == 0 then f
  else divideByTenPower (f / tenPower largestTenPower) (k - largestTenPower)
termination_by k
decreasing_by simp only [largestTenPower] at *; omega

/-- `significand · 10^exponent` by one rounded product or quotient; nothing on overflow. -/
def quick (significand : Nat) (exponent : Int) : Option Float :=
  let f := Float.ofNat significand
  if exponent < 0 then some (divideByTenPower f exponent.natAbs)
  else if exponent.natAbs ≤ largestTenPower then
    let g := f * tenPower exponent.natAbs
    if g.isInf then none else some g
  else if f == 0 then some f
  else none

/-- The double nearest to `significand · 10^exponent`; nothing on overflow. Exponents far outside
the range of doubles are answered without forming the power. -/
def nearest (significand : Nat) (exponent : Int) : Option Float :=
  let magnitude := (Nat.toDigits 10 significand).length + exponent
  if significand = 0 then some 0
  else if magnitude > 310 then none
  else if magnitude < -330 then some 0
  else
    let f := Float.ofScientific significand (decide (exponent < 0)) exponent.natAbs
    if f.isInf then none else some f

/-- Takes decimal digits into `significand` as long as it stays below `2^64`; the digits left. -/
def absorb (significand : Nat) : List Nat → Nat × List Nat
  | [] => (significand, [])
  | d :: ds =>
    if significand * 10 + d ≤ 0xFFFFFFFFFFFFFFFF then absorb (significand * 10 + d) ds
    else (significand, d :: ds)

end BrokerControl.Decimal
