/-!
# Ranges of code points

A property of characters is given by the code points that have it, as closed ranges in ascending
order. The tables of this library are those of Unicode 17.
-/

namespace Mustache.Text

set_option autoImplicit false

abbrev CodeRanges := List (Nat × Nat)

/-- Whether a character lies in one of the ranges. -/
def CodeRanges.cover (ranges : CodeRanges) (character : Char) : Bool :=
  ranges.any fun range => range.1 ≤ character.toNat && character.toNat ≤ range.2

end Mustache.Text
