/-!
# Blanks and white space

Three classes of characters matter to a template. Blanks keep the cursor on its line and decide
whether a tag stands alone. Tag space may pad the inside of a tag. White space in the wide sense
ends the text of a comment and separates the two words of a delimiter change.
-/

namespace Mustache.Text

set_option autoImplicit false

/-- A blank is a space or a tab. -/
def isBlank (character : Char) : Bool :=
  character == ' ' || character == '\t'

/-- Tag space is the white space of ASCII that a tag skips; the vertical tab is not in it. -/
def isTagSpace (character : Char) : Bool :=
  character == ' ' || character == '\t' || character == '\n' || character == '\x0c' ||
    character == '\r'

/-- White space is the Unicode property `White_Space`, 25 characters in ten ranges. -/
def isSpace (character : Char) : Bool :=
  let code := character.toNat
  (9 ≤ code && code ≤ 13) || code == 0x20 || code == 0x85 || code == 0xa0 || code == 0x1680 ||
    (0x2000 ≤ code && code ≤ 0x200a) || code == 0x2028 || code == 0x2029 || code == 0x202f ||
    code == 0x205f || code == 0x3000

theorem isTagSpace_of_isBlank (character : Char) (blank : isBlank character = true) :
    isTagSpace character = true := by
  simp only [isBlank, isTagSpace, Bool.or_eq_true, beq_iff_eq] at *
  rcases blank with blank | blank <;> simp [blank]

/-- The text without the white space at its end. -/
def trimEnd (text : List Char) : List Char :=
  (text.reverse.dropWhile isSpace).reverse

/-- The text without the white space at both ends. -/
def trim (text : List Char) : List Char :=
  trimEnd (text.dropWhile isSpace)

/-- What `trimEnd` leaves is a beginning of the text. -/
theorem trimEnd_append (text : List Char) :
    ∃ removed, trimEnd text ++ removed = text ∧ removed.all isSpace = true := by
  refine ⟨(text.reverse.takeWhile isSpace).reverse, ?_, ?_⟩
  · rw [trimEnd, ← List.reverse_append, List.takeWhile_append_dropWhile, List.reverse_reverse]
  · simp [List.all_reverse]

/-- The maximal runs of characters that are no white space, in order. -/
def words : List Char → List (List Char)
  | [] => []
  | character :: rest =>
    if isSpace character then words rest
    else
      match rest with
      | [] => [[character]]
      | next :: _ =>
        if isSpace next then [character] :: words rest
        else
          match words rest with
          | [] => [[character]]
          | first :: others => (character :: first) :: others

end Mustache.Text
