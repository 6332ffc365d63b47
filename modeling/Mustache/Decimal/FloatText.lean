import Mustache.Decimal.Shortest

/-!
# Floating point numbers as text

A number without a fraction is written with all its digits and `.0`; any other with the fewest
digits that read back. There is never an exponent, and a zero keeps its sign.
-/

namespace Mustache.Decimal

set_option autoImplicit false

/-- The digits of a decimal with a point among them. Zeros at the end of a fraction are dropped. -/
def Scaled.positional (decimal : Scaled) : List Char :=
  let digits := Nat.toDigits 10 decimal.digits
  if 0 ≤ decimal.exponent then digits ++ List.replicate decimal.exponent.toNat '0'
  else
    let places := (-decimal.exponent).toNat
    let padded := List.replicate (places + 1 - digits.length) '0' ++ digits
    let whole := padded.take (padded.length - places)
    let fraction := ((padded.drop (padded.length - places)).reverse.dropWhile (· == '0')).reverse
    if fraction.isEmpty then whole else whole ++ '.' :: fraction

/-- The text of the size of a finite number. -/
def Binary.text (value : Binary) : List Char :=
  match value.toNat? with
  | some whole => Nat.toDigits 10 whole ++ ['.', '0']
  | none => value.shortest.positional

/-- The text of the double with these bits. -/
def textOfBits (bits : UInt64) : String :=
  let negative := bits >>> 63 == 1
  let size := bits &&& 0x7fffffffffffffff
  if size > 0x7ff0000000000000 then "NaN"
  else
    let magnitude := if size == 0x7ff0000000000000 then ['i', 'n', 'f'] else (Binary.ofBits size).text
    String.ofList (if negative then '-' :: magnitude else magnitude)

/-- The text of a floating point number. -/
def textOfFloat (value : Float) : String := textOfBits value.toBits

end Mustache.Decimal
