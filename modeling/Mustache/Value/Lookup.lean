import Mustache.Value

/-!
# Members

Names select members of maps, objects and lists. A name selects an item of a list if it is the
item's index in decimal digits.
-/

namespace Mustache

set_option autoImplicit false

/-- The number that decimal digits stand for, read after `total`. -/
def digitsValue? (total : Nat) : List Char → Option Nat
  | [] => some total
  | digit :: rest =>
    if digit.isDigit then digitsValue? (10 * total + (digit.toNat - 48)) rest else none

/-- Reads an unsigned number that fits 64 bits: digits, possibly after one plus sign. -/
def readUnsigned? (text : String) : Option Nat :=
  let digits :=
    match text.toList with
    | '+' :: rest => rest
    | characters => characters
  if digits.isEmpty then none
  else (digitsValue? 0 digits).filter (· < UInt64.size)

namespace Value

/-- The member of a value with the given name. Only maps, objects and lists have members. -/
def member? (value : Value) (name : String) : Option Value :=
  match value with
  | .map entries => entries.lookup name
  | .object host => host.member? name
  | .list items => (readUnsigned? name).bind fun index => items[index]?
  | _ => none

end Value

end Mustache
