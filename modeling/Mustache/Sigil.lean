/-!
# Sigils

The character right after an open delimiter says what a tag does; a tag without one writes a
value.
-/

namespace Mustache

set_option autoImplicit false

/-- The characters that mark a tag. -/
inductive Sigil where
  | hash
  | caret
  | slash
  | equals
  | bang
  | less
  | greater
  | ampersand
  | brace
deriving Repr, DecidableEq, Inhabited

namespace Sigil

/-- The sigil that a character stands for. -/
def ofChar? : Char → Option Sigil
  | '#' => some hash
  | '^' => some caret
  | '/' => some slash
  | '=' => some equals
  | '!' => some bang
  | '<' => some less
  | '>' => some greater
  | '&' => some ampersand
  | '\x7b' => some brace
  | _ => none

def char : Sigil → Char
  | hash => '#'
  | caret => '^'
  | slash => '/'
  | equals => '='
  | bang => '!'
  | less => '<'
  | greater => '>'
  | ampersand => '&'
  | brace => '\x7b'

/-- The character that may stand right before the close delimiter: the sigil again, or the
opposite brace. -/
def closingChar : Sigil → Char
  | brace => '\x7d'
  | sigil => sigil.char

/-- Whether a tag with this sigil takes its whole line when it is alone on it. Tags that write a
value never do. -/
def mayStandAlone : Sigil → Bool
  | ampersand => false
  | brace => false
  | _ => true

/-- Whether the content is free text up to the close delimiter instead of a name. -/
def takesFreeText : Sigil → Bool
  | bang => true
  | equals => true
  | _ => false

theorem ofChar?_char (sigil : Sigil) : ofChar? sigil.char = some sigil := by
  cases sigil <;> rfl

theorem char_of_ofChar? (character : Char) (sigil : Sigil)
    (known : ofChar? character = some sigil) : sigil.char = character := by
  unfold ofChar? at known
  split at known <;> simp_all [char, eq_comm]

end Sigil

/-- The ASCII characters that a name is made of. -/
def isNameChar (character : Char) : Bool :=
  character.isAlphanum || character == '_' || character == '?' || character == '!' ||
    character == '/' || character == '.' || character == '-'

end Mustache
