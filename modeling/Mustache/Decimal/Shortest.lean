import Mustache.Decimal.Binary

/-!
# Shortest decimals

Among the decimals that read back as a given binary fraction, the shortest is chosen, and among the
shortest the one nearest to the value. On the grid of `n` digits only the two neighbours of the
value can be nearest, so the search tries those for one digit, two digits and so on.
-/

namespace Mustache.Decimal.Binary

set_option autoImplicit false

/-- Whether the value is less than a power of ten. -/
def belowPower (value : Binary) (exponent : Int) : Bool :=
  compareScaled 1 exponent value.significand value.exponent == .gt

/-- The least power of ten above a value that is not zero. The logarithm to base two gives it up to
two steps. -/
def magnitude (value : Binary) : Int :=
  let estimate := ((value.significand.log2 : Int) + value.exponent) * 30103 / 100000
  if value.belowPower estimate then estimate
  else if value.belowPower (estimate + 1) then estimate + 1
  else estimate + 2

/-- The value divided by `10 ^ exponent`, as a numerator and a denominator. -/
def ratioAt (value : Binary) (exponent : Int) : Nat × Nat :=
  (value.significand * power 2 value.exponent * power 10 (-exponent),
    power 2 (-value.exponent) * power 10 exponent)

/-- The neighbour of the value among the multiples of `10 ^ exponent` that reads back. If both do
the nearer is taken, and the greater if they are equally near. -/
def onGrid? (value : Binary) (exponent : Int) : Option Scaled :=
  let ratio := value.ratioAt exponent
  let lower : Scaled := ⟨ratio.1 / ratio.2, exponent⟩
  let upper : Scaled := ⟨ratio.1 / ratio.2 + 1, exponent⟩
  match value.readsBack lower, value.readsBack upper with
  | true, true =>
    if 2 * ratio.1 < (lower.digits + upper.digits) * ratio.2 then some lower else some upper
  | true, false => some lower
  | false, true => some upper
  | false, false => none

/-- The exact decimal value of a binary fraction. -/
def exact (value : Binary) : Scaled :=
  if 0 ≤ value.exponent then ⟨value.significand * power 2 value.exponent, 0⟩
  else ⟨value.significand * power 5 (-value.exponent), value.exponent⟩

/-- The shortest decimal that reads back as a value that is not zero. Seventeen digits always
suffice. -/
def shortest (value : Binary) : Scaled :=
  let first := value.magnitude
  match (List.range 17).findSome? fun (count : Nat) => value.onGrid? (first - (count + 1)) with
  | some decimal => decimal
  | none => value.exact

end Mustache.Decimal.Binary
