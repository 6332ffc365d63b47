import Mustache.Text.Blank
import Mustache.Text.Search

/-!
# Tag delimiters

The pair of texts that surround a tag. A template starts with `{{` and `}}` and may
change the pair as it goes.
-/

namespace Mustache

set_option autoImplicit false

/-- The texts that open and close a tag. -/
structure Delimiters where
  opening : String
  closing : String
deriving Repr, DecidableEq

namespace Delimiters

/-- Two braces on either side. -/
def standard : Delimiters := ⟨"\x7b\x7b", "\x7d\x7d"⟩

instance : Inhabited Delimiters := ⟨standard⟩

/-- Reads the content of a delimiter change, which has exactly two words. -/
def parse? (content : List Char) : Option Delimiters :=
  match Text.words content with
  | [opening, closing] => some ⟨String.ofList opening, String.ofList closing⟩
  | _ => none

/-- The two texts with a space between them. -/
def text (delimiters : Delimiters) : String :=
  delimiters.opening ++ " " ++ delimiters.closing

/-- The opening text that the lexer looks for. One that begins with a blank opens no tag, because
the blanks before a tag are read before its opening; it counts as empty, which is never found. A
lexer that looks for it all the same comes to a halt at the first place where it occurs and never
returns, so what is read here from a text with such a place stands for nothing. -/
def mark (delimiters : Delimiters) : List Char :=
  match delimiters.opening.toList with
  | [] => []
  | first :: rest => if Text.isBlank first then [] else first :: rest

end Delimiters

end Mustache
