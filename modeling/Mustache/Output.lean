import Mustache.Text.Html

/-!
# Output

Literal text is trusted and written as it is. Values are escaped on the way in, unless the output
does not escape at all.
-/

namespace Mustache

set_option autoImplicit false

/-- How values are escaped. -/
inductive Escaping where
  | html
  | none
deriving Repr, DecidableEq, Inhabited

/-- The text written so far, and how values are escaped. -/
structure Output where
  text : String
  escaping : Escaping
deriving Repr, DecidableEq, Inhabited

namespace Output

def empty (escaping : Escaping) : Output := ⟨"", escaping⟩

/-- A value's text as this output writes it. -/
def escape (escaping : Escaping) (text : String) : String :=
  match escaping with
  | .html => Text.escapeHtml text
  | .none => text

def pushTrusted (output : Output) (text : String) : Output :=
  { output with text := output.text ++ text }

def pushEscaped (output : Output) (text : String) : Output :=
  output.pushTrusted (escape output.escaping text)

def isEmpty (output : Output) : Bool := output.text.isEmpty

end Output

end Mustache
