import Mustache.Decimal.FloatText
import Mustache.Value

/-!
# Values as text

What a tag writes for a value, before escaping.
-/

namespace Mustache.Value

set_option autoImplicit false

mutual

def text : Value → String
  | null => ""
  | bool truth => if truth then "true" else "false"
  | int number => Int.repr number
  | float number => Decimal.textOfFloat number
  | string content => content
  | list items => "[" ++ ", ".intercalate (texts items) ++ "]"
  | map entries => "\x7b" ++ ", ".intercalate (entryTexts entries) ++ "\x7d"
  | lambda _ => "<lambda>"
  | object host => host.text

/-- The texts of the items of a list. -/
def texts : List Value → List String
  | [] => []
  | item :: rest => text item :: texts rest

/-- The texts of the entries of a map, name first. -/
def entryTexts : List (String × Value) → List String
  | [] => []
  | (name, value) :: rest => (name ++ ": " ++ text value) :: entryTexts rest

end

/-- What a tag writes for a value: callables are called first, once. -/
def tagText : Value → String
  | lambda callable => (callable.apply "").text
  | value => value.text

end Mustache.Value
