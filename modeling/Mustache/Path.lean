/-!
# Dotted names

`user.address.city` names a value inside a value. The lone dot names the value on top of the
context.
-/

namespace Mustache

set_option autoImplicit false

/-- A dotted name; without segments it is the implicit name `.`. -/
structure Path where
  segments : List String
deriving Repr, DecidableEq, Inhabited

namespace Path

/-- The pieces of a name between its dots; a name with `n` dots has `n + 1` pieces. -/
def pieces : List Char → List (List Char)
  | [] => [[]]
  | character :: rest =>
    if character = '.' then [] :: pieces rest
    else
      match pieces rest with
      | [] => [[character]]
      | first :: others => (character :: first) :: others

/-- Splits a name at its dots. Empty pieces at the end are dropped; others are kept, so `.a` looks
up the empty name first. -/
def parse (name : List Char) : Path :=
  ⟨(((pieces name).reverse.dropWhile List.isEmpty).reverse).map String.ofList⟩

/-- Whether the path names the value on top of the context. -/
def isImplicit (path : Path) : Bool := path.segments.isEmpty

def text (path : Path) : String :=
  if path.isImplicit then "." else ".".intercalate path.segments

end Path

end Mustache
