import Mustache.Cursor

/-!
# Byte cursors

A byte cursor may stop anywhere in a text, also inside a character. Single bytes are read where it
stands; text is read through the character cursor at its place, which needs a character boundary.
-/

namespace Mustache

set_option autoImplicit false

/-- A text and a byte offset in it. -/
structure ByteCursor where
  text : String
  offset : Nat
deriving Repr, DecidableEq, Inhabited

namespace ByteCursor

def ofText (text : String) : ByteCursor := ⟨text, 0⟩

/-- The line and column of the cursor. -/
def position (cursor : ByteCursor) : Position := Position.locate cursor.text cursor.offset

/-- The character cursor at the same place. -/
def toCursor (cursor : ByteCursor) : Cursor :=
  ⟨cursor.position, Text.dropBytes cursor.offset cursor.text.toList⟩

/-- Reads text with an operation on character cursors and moves behind what it consumed. -/
def read {Result : Type} (cursor : ByteCursor) (operation : Cursor → Result × Cursor) :
    Result × ByteCursor :=
  let result := operation cursor.toCursor
  (result.1, { cursor with offset := result.2.position.offset })

def advanceTo (cursor : ByteCursor) (offset : Nat) : ByteCursor := { cursor with offset }

def peek? (cursor : ByteCursor) : Option UInt8 := cursor.text.toUTF8.data[cursor.offset]?

/-- Whether no byte is ahead; inside the last character there still is one. -/
def atEnd (cursor : ByteCursor) : Bool := cursor.text.utf8ByteSize ≤ cursor.offset

/-- Whether the cursor is at the beginning of the text or right after the byte of a line break. -/
def atLineStart (cursor : ByteCursor) : Bool :=
  cursor.offset == 0 || cursor.text.toUTF8.data[cursor.offset - 1]? == some 10

/-- Consumes the byte at the cursor if it is one of `accepted`. -/
def takeByte (cursor : ByteCursor) (accepted : List UInt8) : Option UInt8 × ByteCursor :=
  match cursor.peek? with
  | none => (none, cursor)
  | some byte =>
    if accepted.contains byte then (some byte, cursor.advanceTo (cursor.offset + 1))
    else (none, cursor)

def slice (cursor : ByteCursor) (first last : Nat) : List Char :=
  Text.takeBytes (last - first) (Text.dropBytes first cursor.text.toList)

end ByteCursor

end Mustache
