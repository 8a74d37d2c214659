/-!
# Shortest decimals

The decimal with the fewest digits that still reads back as a given double, and the nearest of
those. A double is decoded into `mantissa · 2^exponent`; the reals that round to it form an
interval, whose ends belong to it exactly when the mantissa is even. `Binary.shortest` walks the
decimal grids from one digit to seventeen and takes the first that has a point in the interval.
-/

namespace BrokerControl.Decimal

/-- The positive number `digits · 10^exponent`. -/
structure Scaled where
  digits : Nat
  exponent : Int
  deriving DecidableEq, Repr

/-- The same number with no trailing zero among its digits. -/
def Scaled.normalize (s : Scaled) : Scaled :=
  if 0 < s.digits ∧ s.digits % 10 = 0 then normalize ⟨s.digits / 10, s.exponent + 1⟩ else s
termination_by s.digits
decreasing_by omega

/-- The positive number `mantissa · 2^exponent`; `atPowerOfTwo` says that the next smaller double
is only half as far away as the next larger one. -/
structure Binary where
  mantissa : Nat
  exponent : Int
  atPowerOfTwo : Bool
  deriving DecidableEq, Repr

/-- How many decimal digits `n` is written with. -/
def digitCount (n : Nat) : Nat := (Nat.toDigits 10 n).length

/-- A quotient of naturals, as it is handed from one scale to another. -/
structure Ratio where
  num : Nat
  den : Nat

namespace Ratio

/-- `r.scaleTen e` is `r / 10^e`. -/
def scaleTen (r : Ratio) (e : Int) : Ratio :=
  if 0 ≤ e then ⟨r.num, r.den * Nat.pow 10 e.toNat⟩ else ⟨r.num * Nat.pow 10 (-e).toNat, r.den⟩

/-- The exponent of the leading decimal digit of a positive ratio. -/
def leadingExponent (r : Ratio) : Int :=
  if r.den ≤ r.num then (digitCount (r.num / r.den) : Int) - 1
  else -((digitCount ((r.den + r.num - 1) / r.num - 1) : Nat) : Int)

end Ratio

namespace Binary

/-- The magnitude of a finite nonzero double; nothing for zero, infinities and NaN. -/
def ofFloat? (x : Float) : Option Binary :=
  let bits := x.toBits.toNat
  let fraction : Nat := bits % 0x10000000000000
  let biased : Nat := bits / 0x10000000000000 % 0x800
  if biased = 2047 then none
  else if biased = 0 then
    if fraction = 0 then none else some ⟨fraction, -1074, false⟩
  else some ⟨0x10000000000000 + fraction, (biased : Int) - 1075, fraction = 0 ∧ 1 < biased⟩

/-- A quarter of the distance between `b` and the next larger double. -/
def quarter (b : Binary) : Ratio :=
  let e := b.exponent - 2
  if 0 ≤ e then ⟨Nat.pow 2 e.toNat, 1⟩ else ⟨1, Nat.pow 2 (-e).toNat⟩

/-- The lower end of the interval that rounds to `b`, in quarters. -/
def lowQuarters (b : Binary) : Nat := 4 * b.mantissa - if b.atPowerOfTwo then 1 else 2

/-- The upper end of the interval that rounds to `b`, in quarters. -/
def highQuarters (b : Binary) : Nat := 4 * b.mantissa + 2

/-- Whether the grid point `c · 10^e` rounds to `b`, where `unit` is a quarter measured in `10^e`.
The ends of the interval count exactly when the mantissa is even. -/
def hits (b : Binary) (unit : Ratio) (c : Nat) : Bool :=
  let low := b.lowQuarters * unit.num
  let high := b.highQuarters * unit.num
  let point := c * unit.den
  if b.mantissa % 2 = 0 then low ≤ point && point ≤ high else low < point && point < high

/-- The point of the grid `10^e` that rounds to `b`, the nearer of two, the even one of a tie. -/
def onGrid (b : Binary) (e : Int) : Option Scaled :=
  let unit := b.quarter.scaleTen e
  let value := 4 * b.mantissa * unit.num
  let below := value / unit.den
  let above := below + 1
  let toBelow := value - below * unit.den
  let toAbove := above * unit.den - value
  match b.hits unit below, b.hits unit above with
  | true, true =>
    if toBelow < toAbove || (toBelow == toAbove && below % 2 == 0) then some ⟨below, e⟩
    else some ⟨above, e⟩
  | true, false => some ⟨below, e⟩
  | false, true => some ⟨above, e⟩
  | false, false => none

/-- The shortest decimal that rounds to `b`; seventeen digits always suffice for a double. -/
def shortest (b : Binary) : Scaled :=
  let leading := (Ratio.mk (4 * b.mantissa * b.quarter.num) b.quarter.den).leadingExponent
  let grids := (List.range 17).map fun (n : Nat) ↦ leading - n
  ((grids.findSome? b.onGrid).getD ⟨b.mantissa, b.exponent⟩).normalize

end Binary

end BrokerControl.Decimal
