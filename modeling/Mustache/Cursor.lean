import Mustache.Position
import Mustache.Text.Blank
import Mustache.Text.Search

/-!
# Cursors

A cursor is a position together with the text that follows it. Every operation consumes whole
characters from the front and moves the position over exactly those, so the position of a cursor is
always that of the text it has passed.
-/

namespace Mustache

set_option autoImplicit false

/-- A place in a text and what lies ahead. -/
structure Cursor where
  position : Position
  rest : List Char
deriving Repr, DecidableEq, Inhabited

namespace Cursor

/-- The cursor at the beginning of a text. -/
def ofText (text : List Char) : Cursor := ⟨Position.start, text⟩

/-- Whether the cursor is at the beginning of the text or right after a line break. -/
def atLineStart (cursor : Cursor) : Bool := cursor.position.column == 0

/-- Passes `consumed`, after which `rest` lies ahead. -/
def pass (cursor : Cursor) (consumed rest : List Char) : Cursor :=
  ⟨cursor.position.after consumed, rest⟩

/-- Consumes the longest beginning whose characters all satisfy the predicate. -/
def takeWhile (cursor : Cursor) (accept : Char → Bool) : List Char × Cursor :=
  let taken := cursor.rest.takeWhile accept
  (taken, cursor.pass taken (cursor.rest.dropWhile accept))

/-- Consumes one character that satisfies the predicate, if it is next. -/
def takeOne (cursor : Cursor) (accept : Char → Bool) : List Char × Cursor :=
  match cursor.rest with
  | [] => ([], cursor)
  | character :: rest =>
    if accept character then ([character], cursor.pass [character] rest) else ([], cursor)

def startsWith (cursor : Cursor) (literal : List Char) : Bool :=
  (Text.stripStart? literal cursor.rest).isSome

/-- Consumes `literal`, which must not be empty. -/
def literal? (cursor : Cursor) (literal : List Char) : Option Cursor :=
  if literal.isEmpty then none
  else (Text.stripStart? literal cursor.rest).map (cursor.pass literal)

/-- Consumes everything before the first occurrence of `literal`. -/
def until? (cursor : Cursor) (literal : List Char) : Option (List Char × Cursor) :=
  (Text.splitAt? literal cursor.rest).map fun (before, after) => (before, cursor.pass before after)

def takeRest (cursor : Cursor) : List Char × Cursor :=
  (cursor.rest, cursor.pass cursor.rest [])

def take (cursor : Cursor) (count : Nat) : List Char × Cursor :=
  (cursor.rest.take count, cursor.pass (cursor.rest.take count) (cursor.rest.drop count))

/-- Consumes a line break, `\n` or `\r\n`, if one is next. -/
def takeLineBreak (cursor : Cursor) : List Char × Cursor :=
  match cursor.rest with
  | '\n' :: rest => (['\n'], cursor.pass ['\n'] rest)
  | '\r' :: '\n' :: rest => (['\r', '\n'], cursor.pass ['\r', '\n'] rest)
  | _ => ([], cursor)

/-- Whether only blanks lie between the cursor and the next line break or the end. A carriage
return on its own is no line break. -/
def blankToLineEnd (cursor : Cursor) : Bool :=
  match cursor.rest.dropWhile Text.isBlank with
  | [] => true
  | '\n' :: _ => true
  | '\r' :: '\n' :: _ => true
  | _ => false

/-- The cursor `next` lies `consumed` further on than `cursor`. -/
def Passes (cursor : Cursor) (consumed : List Char) (next : Cursor) : Prop :=
  cursor.rest = consumed ++ next.rest ∧ next.position = cursor.position.after consumed

theorem Passes.trans {first second third : Cursor} {consumed more : List Char}
    (left : first.Passes consumed second) (right : second.Passes more third) :
    first.Passes (consumed ++ more) third := by
  constructor
  · rw [left.1, right.1, List.append_assoc]
  · rw [right.2, left.2, Position.after_append]

theorem Passes.refl (cursor : Cursor) : cursor.Passes [] cursor := ⟨rfl, rfl⟩

theorem passes_takeWhile (cursor : Cursor) (accept : Char → Bool) :
    cursor.Passes (cursor.takeWhile accept).1 (cursor.takeWhile accept).2 :=
  ⟨by simp [takeWhile, pass], rfl⟩

theorem passes_takeOne (cursor : Cursor) (accept : Char → Bool) :
    cursor.Passes (cursor.takeOne accept).1 (cursor.takeOne accept).2 := by
  rw [takeOne]
  split
  · exact Passes.refl cursor
  · rename_i character rest ahead
    split
    · exact ⟨by simp [pass, ahead], rfl⟩
    · exact Passes.refl cursor

theorem passes_literal? (cursor next : Cursor) (literal : List Char)
    (found : cursor.literal? literal = some next) :
    cursor.Passes literal next ∧ literal ≠ [] := by
  rw [literal?] at found
  split at found
  · cases found
  · rename_i nonempty
    obtain ⟨rest, stripped, rfl⟩ := Option.map_eq_some_iff.1 found
    rw [Text.stripStart?_eq_some_iff] at stripped
    exact ⟨⟨stripped, rfl⟩, by simpa using nonempty⟩

theorem passes_until? (cursor next : Cursor) (literal before : List Char)
    (found : cursor.until? literal = some (before, next)) : cursor.Passes before next := by
  obtain ⟨⟨text, after⟩, split, same⟩ := Option.map_eq_some_iff.1 found
  simp only [Prod.mk.injEq] at same
  obtain ⟨rfl, rfl⟩ := same
  exact ⟨by simp [pass, Text.splitAt?_append literal cursor.rest text after split], rfl⟩

theorem passes_take (cursor : Cursor) (count : Nat) :
    cursor.Passes (cursor.take count).1 (cursor.take count).2 :=
  ⟨by simp [take, pass], rfl⟩

theorem passes_takeLineBreak (cursor : Cursor) :
    cursor.Passes cursor.takeLineBreak.1 cursor.takeLineBreak.2 := by
  rw [takeLineBreak]
  split
  · rename_i rest ahead
    exact ⟨by simp [pass, ahead], rfl⟩
  · rename_i rest ahead
    exact ⟨by simp [pass, ahead], rfl⟩
  · exact Passes.refl cursor

end Cursor

end Mustache
