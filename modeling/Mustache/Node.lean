import Mustache.Delimiters
import Mustache.Path
import Mustache.Position

/-!
# Template trees

The tree of a template: literal text, tags, and sections around the nodes between their open and
close tags. Every node that stems from a tag knows where its open delimiter lies.
-/

namespace Mustache

set_option autoImplicit false

/-- A node of a template tree. -/
inductive Node where
  /-- Nodes in order. -/
  | sequence (children : List Node)
  /-- Literal output. -/
  | text (content : String)
  /-- A value, escaped when it is written. -/
  | escaped (path : Path) (position : Position)
  /-- A value, written as it is. -/
  | unescaped (path : Path) (position : Position)
  /-- A section. `raw` is the source between its tags and `delimiters` the pair in force at its
  open tag; callables receive the one and are read under the other. -/
  | block (path : Path) (body : List Node) (raw : String) (delimiters : Delimiters)
      (position : Position)
  /-- A section whose body is written when its value is false or empty. -/
  | inverted (path : Path) (body : List Node) (position : Position)
  /-- Another template, each of its lines indented. -/
  | partialTag (name : String) (indentation : String) (position : Position)
  /-- A remark that writes nothing. -/
  | comment (content : String) (position : Position)
  /-- A change of delimiters. -/
  | delimiters (pair : Delimiters) (position : Position)
deriving Repr, Inhabited

namespace Node

/-- Where the node's tag begins; sequences and literal text have no tag. -/
def position? : Node → Option Position
  | sequence _ => none
  | text _ => none
  | escaped _ position => some position
  | unescaped _ position => some position
  | block _ _ _ _ position => some position
  | inverted _ _ position => some position
  | partialTag _ _ position => some position
  | comment _ position => some position
  | delimiters _ position => some position

end Node

end Mustache
