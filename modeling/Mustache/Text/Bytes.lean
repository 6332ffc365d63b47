/-!
# Byte lengths

Offsets and columns count the bytes of the UTF-8 form of a text. The text itself stays a list of
characters, so a cut that falls inside a character cannot be formed from these functions.
-/

namespace Mustache.Text

set_option autoImplicit false

/-- The number of bytes of a text in UTF-8. -/
def byteLength (text : List Char) : Nat :=
  text.foldl (fun total character => total + character.utf8Size) 0

/-- The text after its first `count` bytes; a character that the cut splits is dropped whole. -/
def dropBytes : Nat → List Char → List Char
  | 0, text => text
  | _ + 1, [] => []
  | count + 1, character :: rest => dropBytes (count + 1 - character.utf8Size) rest

/-- The characters that lie within the first `count` bytes of the text. -/
def takeBytes (count : Nat) : List Char → List Char
  | [] => []
  | character :: rest =>
    if character.utf8Size ≤ count then
      character :: takeBytes (count - character.utf8Size) rest
    else []

theorem foldl_utf8Size (text : List Char) (start : Nat) :
    text.foldl (fun total character => total + character.utf8Size) start =
      start + byteLength text := by
  induction text generalizing start with
  | nil => simp [byteLength]
  | cons character rest ih =>
    rw [byteLength, List.foldl_cons, List.foldl_cons, ih, ih (0 + character.utf8Size)]
    omega

@[simp]
theorem byteLength_nil : byteLength [] = 0 := rfl

@[simp]
theorem byteLength_cons (character : Char) (rest : List Char) :
    byteLength (character :: rest) = character.utf8Size + byteLength rest := by
  rw [byteLength, List.foldl_cons, foldl_utf8Size]
  omega

@[simp]
theorem byteLength_append (first second : List Char) :
    byteLength (first ++ second) = byteLength first + byteLength second := by
  induction first with
  | nil => simp
  | cons character rest ih => simp [ih, Nat.add_assoc]

/-- Every character has a byte, so a text has no fewer bytes than characters. -/
theorem length_le_byteLength (text : List Char) : text.length ≤ byteLength text := by
  induction text with
  | nil => simp
  | cons character rest ih =>
    have positive := character.utf8Size_pos
    simp only [List.length_cons, byteLength_cons]
    omega

@[simp]
theorem dropBytes_zero (text : List Char) : dropBytes 0 text = text := by
  cases text <;> rfl

/-- Dropping the bytes of a beginning leaves the rest. -/
theorem dropBytes_byteLength (first second : List Char) :
    dropBytes (byteLength first) (first ++ second) = second := by
  induction first with
  | nil => simp
  | cons character rest ih =>
    have positive := character.utf8Size_pos
    obtain ⟨width, wide⟩ : ∃ width, byteLength (character :: rest) = width + 1 :=
      ⟨byteLength (character :: rest) - 1, by simp only [byteLength_cons]; omega⟩
    rw [wide, List.cons_append, dropBytes, ← wide, byteLength_cons, Nat.add_sub_cancel_left, ih]

end Mustache.Text
