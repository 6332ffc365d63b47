/-!
# Binary fractions

A finite double is a natural number times a power of two. Decimals are compared with it, and with
the ends of the interval of reals that round to it, by multiplying naturals; nothing is rounded
here.
-/

namespace Mustache.Decimal

set_option autoImplicit false

/-- The size of a finite double, `significand * 2 ^ exponent`. -/
structure Binary where
  significand : Nat
  exponent : Int
  /-- The next double towards zero is only half as far away as the next one away from zero. -/
  narrowBelow : Bool
deriving Repr, DecidableEq, Inhabited

/-- The decimal `digits * 10 ^ exponent`. -/
structure Scaled where
  digits : Nat
  exponent : Int
deriving Repr, DecidableEq, Inhabited

/-- A power of a natural number; negative exponents count as zero. -/
def power (base : Nat) (exponent : Int) : Nat := Nat.pow base exponent.toNat

namespace Binary

/-- The size of the double with these bits, which must not be those of an infinity or of no
number. -/
def ofBits (bits : UInt64) : Binary :=
  let biased := ((bits >>> 52) &&& 0x7ff).toNat
  let fraction := (bits &&& 0xfffffffffffff).toNat
  if biased = 0 then ⟨fraction, -1074, false⟩
  else ⟨0x10000000000000 + fraction, (biased : Int) - 1075, fraction == 0 && biased > 1⟩

/-- Compares `digits * 10 ^ tens` with `count * 2 ^ twos`. -/
def compareScaled (digits : Nat) (tens : Int) (count : Nat) (twos : Int) : Ordering :=
  compare (digits * power 10 tens * power 2 (-twos)) (count * power 2 twos * power 10 (-tens))

/-- Whether a decimal lies among the reals that round to the binary fraction. The interval reaches
half way to either neighbour; its ends belong to it if the significand is even. -/
def readsBack (value : Binary) (decimal : Scaled) : Bool :=
  let below := if value.narrowBelow then 4 * value.significand - 1 else 4 * value.significand - 2
  let above := 4 * value.significand + 2
  let closed := value.significand % 2 == 0
  let lower := compareScaled decimal.digits decimal.exponent below (value.exponent - 2)
  let upper := compareScaled decimal.digits decimal.exponent above (value.exponent - 2)
  (lower == .gt || (closed && lower == .eq)) && (upper == .lt || (closed && upper == .eq))

/-- The value as a natural number, if it is one. -/
def toNat? (value : Binary) : Option Nat :=
  if 0 ≤ value.exponent then some (value.significand * power 2 value.exponent)
  else
    let divisor := power 2 (-value.exponent)
    if value.significand % divisor = 0 then some (value.significand / divisor) else none

end Binary

end Mustache.Decimal
