/-!
# Indentation

Indenting puts a text in front of every line. A line break at the very end starts no line, and an
empty text has none.
-/

namespace Mustache.Text

set_option autoImplicit false

/-- Puts a character before lines that are indented already, except for the first of them. -/
def indentBefore (indentation : List Char) (character : Char) (rest : List Char) : List Char :=
  if character = '\n' && !rest.isEmpty then '\n' :: (indentation ++ rest) else character :: rest

def indentLines (indentation text : List Char) : List Char :=
  let lines := text.foldr (indentBefore indentation) []
  if lines.isEmpty then [] else indentation ++ lines

def indent (text indentation : String) : String :=
  String.ofList (indentLines indentation.toList text.toList)

end Mustache.Text
