import Mustache.Node
import Mustache.Text.Quoted

/-!
# Trees as text

A tree is written as nested lists in parentheses, each with the kind of node first. Positions, the
content of comments and the raw text of sections are left out.
-/

namespace Mustache.Node

set_option autoImplicit false

mutual

def writeTo (out : String) : Node → String
  | .sequence children => writeAllTo (out ++ "(multi") children ++ ")"
  | .text content => out ++ "(static " ++ Text.quote content ++ ")"
  | .escaped path _ => out ++ "(etag " ++ path.text ++ ")"
  | .unescaped path _ => out ++ "(utag " ++ path.text ++ ")"
  | .block path body _ _ _ => writeAllTo (out ++ "(section " ++ path.text) body ++ ")"
  | .inverted path body _ => writeAllTo (out ++ "(inverted " ++ path.text) body ++ ")"
  | .partialTag name indentation _ =>
    out ++ "(partial " ++ name ++ " " ++ Text.quote indentation ++ ")"
  | .comment _ _ => out ++ "(comment)"
  | .delimiters pair _ => out ++ "(delimiters " ++ pair.text ++ ")"

/-- Writes nodes after `out`, a space before each. -/
def writeAllTo (out : String) : List Node → String
  | [] => out
  | node :: rest => writeAllTo (writeTo (out ++ " ") node) rest

end

def toText (node : Node) : String := writeTo "" node

end Mustache.Node
