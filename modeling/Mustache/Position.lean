import Mustache.Text.Bytes

/-!
# Positions in a text

A position is a byte offset together with the line that holds it. Lines end at `\n` alone, so a
carriage return belongs to the line it closes.
-/

namespace Mustache

set_option autoImplicit false

/-- A place in a text; all four fields count from zero, and all but `line` count bytes. -/
structure Position where
  offset : Nat
  lineStart : Nat
  line : Nat
  column : Nat
deriving Repr, DecidableEq, Inhabited

namespace Position

def start : Position := ⟨0, 0, 0, 0⟩

def next (position : Position) (character : Char) : Position :=
  if character = '\n' then
    ⟨position.offset + 1, position.offset + 1, position.line + 1, 0⟩
  else
    { position with
      offset := position.offset + character.utf8Size
      column := position.column + character.utf8Size }

/-- The position after the characters of `text`. -/
def after (position : Position) (text : List Char) : Position :=
  text.foldl next position

/-- Steps over whole characters up to the byte offset `target`; an offset inside a character is
counted in bytes from the character before it. -/
def locateFrom (position : Position) (target : Nat) : List Char → Position
  | [] => position
  | character :: rest =>
    if position.offset + character.utf8Size ≤ target then
      locateFrom (position.next character) target rest
    else
      { position with
        offset := position.offset + (target - position.offset)
        column := position.column + (target - position.offset) }

/-- The position of a byte offset; an offset past the end is located at the end. -/
def locate (source : String) (offset : Nat) : Position :=
  locateFrom start offset source.toList

/-- The number of the line, counted from one. -/
def lineNumber (position : Position) : Nat := position.line + 1

/-- The number of the column, counted from one. -/
def columnNumber (position : Position) : Nat := position.column + 1

/-- The text of the line that starts at byte `lineStart`, without its line break. -/
def lineAt (lineStart : Nat) (source : List Char) : List Char :=
  let line := (Text.dropBytes lineStart source).takeWhile (· != '\n')
  if line.getLast? = some '\r' then line.dropLast else line

/-- The text of the line that the position lies on. -/
def lineText (position : Position) (source : String) : String :=
  String.ofList (lineAt position.lineStart source.toList)

@[simp]
theorem after_nil (position : Position) : position.after [] = position := rfl

@[simp]
theorem after_cons (position : Position) (character : Char) (rest : List Char) :
    position.after (character :: rest) = (position.next character).after rest := rfl

theorem after_append (position : Position) (first second : List Char) :
    position.after (first ++ second) = (position.after first).after second := by
  simp [after]

theorem offset_next (position : Position) (character : Char) :
    (position.next character).offset = position.offset + character.utf8Size := by
  by_cases newline : character = '\n'
  · subst newline
    rfl
  · simp [next, newline]

/-- The offset advances by the bytes of the text. -/
theorem offset_after (position : Position) (text : List Char) :
    (position.after text).offset = position.offset + Text.byteLength text := by
  induction text generalizing position with
  | nil => simp
  | cons character rest ih => simp [ih, offset_next, Nat.add_assoc]

/-- The offset of every position reached from the start is the line start plus the column. -/
theorem offset_eq_after (position : Position) (text : List Char)
    (offset : position.offset = position.lineStart + position.column) :
    (position.after text).offset = (position.after text).lineStart + (position.after text).column := by
  induction text generalizing position with
  | nil => simpa using offset
  | cons character rest ih =>
    rw [after_cons]
    apply ih
    by_cases newline : character = '\n'
    · simp [next, newline]
    · simp only [next, newline, if_false]
      omega

end Position

end Mustache
