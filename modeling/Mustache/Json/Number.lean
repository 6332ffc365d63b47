import Mustache.Value

/-!
# Numbers in JSON

Digits are gathered into a 64-bit significand; digits that no longer fit count as powers of ten
before the point and as nothing after it. A number written without point and exponent is an integer
if it fits 64 bits, except for minus zero; every other number is the significand scaled by a power
of ten in floating point.
-/

namespace Mustache.Json

set_option autoImplicit false

/-- The parts of a number: its sign, its digits before and after the point, and its exponent. -/
structure NumberText where
  negative : Bool
  whole : List Nat
  /-- Nothing if there is no point. -/
  fraction : Option (List Nat)
  /-- Whether the exponent is negative, and its digits; nothing if there is none. -/
  exponent : Option (Bool × List Nat)
deriving Repr, DecidableEq, Inhabited

def digitValues (digits : List Char) : List Nat := digits.map fun digit => digit.toNat - 48

/-- The exponent part of a number, of which nothing may follow. -/
def readExponent? : List Char → Option (Option (Bool × List Nat))
  | [] => some none
  | mark :: rest =>
    if mark = 'e' ∨ mark = 'E' then
      let signed :=
        match rest with
        | '-' :: digits => (true, digits)
        | '+' :: digits => (false, digits)
        | digits => (false, digits)
      if signed.2.isEmpty || !signed.2.all Char.isDigit then none
      else some (some (signed.1, digitValues signed.2))
    else none

/-- Reads a number, which must be the whole text. A zero at the front stands alone before the point,
and a point has digits on both sides. -/
def readNumber? (text : List Char) : Option NumberText :=
  let signed :=
    match text with
    | '-' :: rest => (true, rest)
    | rest => (false, rest)
  let whole := signed.2.takeWhile Char.isDigit
  let afterWhole := signed.2.dropWhile Char.isDigit
  if whole.isEmpty || (whole.head? == some '0' && whole.length > 1) then none
  else
    match afterWhole with
    | '.' :: rest =>
      let fraction := rest.takeWhile Char.isDigit
      if fraction.isEmpty then none
      else
        (readExponent? (rest.dropWhile Char.isDigit)).map fun exponent =>
          ⟨signed.1, digitValues whole, some (digitValues fraction), exponent⟩
    | rest =>
      (readExponent? rest).map fun exponent => ⟨signed.1, digitValues whole, none, exponent⟩

/-- Gathers digits while the significand fits 64 bits; returns it and the digits left over. -/
def gather (significand : Nat) : List Nat → Nat × List Nat
  | [] => (significand, [])
  | digit :: rest =>
    let next := significand * 10 + digit
    if next < UInt64.size then gather next rest else (significand, digit :: rest)

def numberOf (digits : List Nat) : Nat := digits.foldl (fun total digit => total * 10 + digit) 0

/-- Scales by a power of ten, in steps of at most 308 so that each power is finite; nothing if the
result is infinite. -/
def scale? (value : Float) (exponent : Int) : Option Float :=
  if exponent.natAbs ≤ 308 then
    let power := Float.ofScientific 1 false exponent.natAbs
    if exponent < 0 then some (value / power)
    else
      let scaled := value * power
      if scaled.isInf then none else some scaled
  else if value == 0 then some value
  else if 0 ≤ exponent then none
  else scale? (value / Float.ofScientific 1 false 308) (exponent + 308)
termination_by exponent.natAbs
decreasing_by omega

/-- The floating point number with a sign, a significand and a power of ten. -/
def floatOf? (negative : Bool) (significand : Nat) (exponent : Int) : Option Value :=
  (scale? (UInt64.ofNat significand).toFloat exponent).map fun value =>
    .float (if negative then -value else value)

/-- Integers of 64 bits with a sign lie below this number, and not below its opposite. -/
def integerBound : Nat := UInt64.size / 2

/-- The value of an integer that fits 64 bits without its sign. -/
def integer (negative : Bool) (magnitude : Nat) : Value :=
  if negative then
    if magnitude = 0 ∨ magnitude > integerBound then .float (-(UInt64.ofNat magnitude).toFloat)
    else .int (-(magnitude : Int))
  else if magnitude < integerBound then .int magnitude
  else .float (UInt64.ofNat magnitude).toFloat

/-- The greatest exponent that is read as a number. -/
def exponentLimit : Nat := 0x7fffffff

/-- The value of a number; nothing if it is out of range. An exponent beyond the limit means zero if
it is negative or the significand is zero. -/
def NumberText.value? (number : NumberText) : Option Value :=
  let whole := gather 0 number.whole
  let wholeExponent : Int := whole.2.length
  match number.fraction, number.exponent, whole.2 with
  | none, none, [] => some (integer number.negative whole.1)
  | fraction, exponent, _ =>
    let digits := fraction.getD []
    let gathered := gather whole.1 digits
    let places : Int := wholeExponent - (digits.length - gathered.2.length : Nat)
    match exponent with
    | none => floatOf? number.negative gathered.1 places
    | some (down, exponentDigits) =>
      let size := numberOf exponentDigits
      if size > exponentLimit then
        if gathered.1 ≠ 0 ∧ !down then none
        else some (.float (if number.negative then -0.0 else 0.0))
      else
        floatOf? number.negative gathered.1 (if down then places - size else places + size)

end Mustache.Json
