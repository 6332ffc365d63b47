/-!
# HTML escaping

The five characters that markup is made of are written as entities. Escaping works character by
character, so it distributes over concatenation, and text that is already escaped is escaped again.
-/

namespace Mustache.Text

set_option autoImplicit false

/-- A character as it stands in escaped text. -/
def escapeChar (character : Char) : List Char :=
  if character = '&' then ['&', 'a', 'm', 'p', ';']
  else if character = '<' then ['&', 'l', 't', ';']
  else if character = '>' then ['&', 'g', 't', ';']
  else if character = '\x22' then ['&', 'q', 'u', 'o', 't', ';']
  else if character = '\x27' then ['&', '#', '3', '9', ';']
  else [character]

/-- The text with the characters of markup as entities. -/
def escapeHtml (text : String) : String :=
  String.ofList (text.toList.flatMap escapeChar)

end Mustache.Text
