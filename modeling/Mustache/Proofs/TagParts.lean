import Mustache.Lexeme
import Mustache.Proofs.FirstOccurrence

/-!
# The parts of a tag

What stands between the delimiters of a tag, cut into its parts, and the conditions under which the
parts are read as they are. The conditions speak of the parts and the closing delimiter alone, so a
tag is read the same whatever follows it and wherever it stands.
-/

namespace Mustache

set_option autoImplicit false

/-- The text does not begin with a character of the class. -/
def Text.StopsAt (accept : Char → Bool) (text : List Char) : Prop :=
  ∀ character, text.head? = some character → accept character = false

namespace Text

theorem stopsAt_nil (accept : Char → Bool) : StopsAt accept [] := by
  intro character found
  cases found

theorem stopsAt_cons {accept : Char → Bool} {character : Char} {rest : List Char} :
    StopsAt accept (character :: rest) ↔ accept character = false := by
  constructor
  · intro stops
    exact stops character rfl
  · intro refused other found
    cases found
    exact refused

theorem StopsAt.append {accept : Char → Bool} {text : List Char} (stops : StopsAt accept text)
    (nonempty : text ≠ []) (more : List Char) : StopsAt accept (text ++ more) := by
  cases text with
  | nil => exact absurd rfl nonempty
  | cons head rest => exact stopsAt_cons.2 (stopsAt_cons.1 stops)

theorem StopsAt.of_append {accept : Char → Bool} {text more : List Char}
    (stops : StopsAt accept (text ++ more)) : StopsAt accept text := by
  cases text with
  | nil => exact stopsAt_nil accept
  | cons head rest => exact stopsAt_cons.2 (stopsAt_cons.1 stops)

theorem stopsAt_dropWhile (accept : Char → Bool) (text : List Char) :
    StopsAt accept (text.dropWhile accept) := by
  intro character found
  have refused := List.head?_dropWhile_not accept text
  rw [found] at refused
  exact refused

theorem takeWhile_of_stopsAt {accept : Char → Bool} {front back : List Char}
    (all : ∀ character ∈ front, accept character = true) (stops : StopsAt accept back) :
    (front ++ back).takeWhile accept = front := by
  rw [List.takeWhile_append_of_pos all]
  cases back with
  | nil => simp
  | cons head rest => simp [stopsAt_cons.1 stops]

theorem dropWhile_of_stopsAt {accept : Char → Bool} {front back : List Char}
    (all : ∀ character ∈ front, accept character = true) (stops : StopsAt accept back) :
    (front ++ back).dropWhile accept = back := by
  rw [List.dropWhile_append_of_pos all]
  cases back with
  | nil => rfl
  | cons head rest => simp [stopsAt_cons.1 stops]

end Text

/-- Whether a tag of this kind has a name in it, and no free text. -/
def TagKind.hasName : TagKind → Bool
  | .comment => false
  | .setDelimiters _ => false
  | _ => true

/-- Only the sigils that take free text make tags without a name. -/
theorem TagKind.bound_of_hasName {sigil : Option Sigil} {content : List Char} {kind : TagKind}
    (known : TagKind.of? sigil content = some kind) (names : kind.hasName = true) :
    sigil.any Sigil.takesFreeText = false := by
  unfold TagKind.of? at known
  cases sigil with
  | none => rfl
  | some sigil =>
    cases sigil with
    | bang =>
      cases known
      cases names
    | equals =>
      obtain ⟨pair, -, rfl⟩ := Option.map_eq_some_iff.1 known
      cases names
    | _ => rfl

/-- What stands between the delimiters of a tag. -/
structure TagParts where
  sigil : Option Sigil
  space : List Char
  content : List Char
  spaceAfter : List Char
  /-- The repeated sigil before the closing delimiter, if it is there. -/
  closingSigil : List Char

namespace TagParts

def sigilText (parts : TagParts) : List Char := parts.sigil.toList.map Sigil.char

def inner (parts : TagParts) : List Char :=
  parts.sigilText ++ parts.space ++ parts.content ++ parts.spaceAfter ++ parts.closingSigil

/-- Whether the content is free text up to the closing delimiter. -/
def isFree (parts : TagParts) : Bool := parts.sigil.any Sigil.takesFreeText

/-- From the content on, the parts are cut where reading a tag cuts. -/
structure Fits (parts : TagParts) (closing : List Char) : Prop where
  closing_ne : closing ≠ []
  unmarked : parts.sigil = none → Text.StopsAt (fun character => (Sigil.ofChar? character).isSome)
    (parts.space ++ parts.content)
  space : ∀ character ∈ parts.space, Text.isTagSpace character = true
  content_ne : parts.content ≠ []
  content_head : Text.StopsAt Text.isTagSpace parts.content
  name : parts.isFree = false → (∀ character ∈ parts.content, isNameChar character = true) ∧
    Text.StopsAt isNameChar (parts.spaceAfter ++ parts.closingSigil ++ closing)
  free : ∀ sigil, parts.sigil = some sigil → sigil.takesFreeText = true →
    ∃ raw extra, parts.content ++ parts.spaceAfter ++ parts.closingSigil ++ closing =
      raw ++ closing ++ extra ∧ Text.AbsentBefore closing raw (closing ++ extra) ∧
      parts.content = Tag.freeContent sigil raw
  spaceAfter : ∀ character ∈ parts.spaceAfter, Text.isTagSpace character = true
  spaceAfter_end : Text.StopsAt Text.isTagSpace (parts.closingSigil ++ closing)
  closed : (parts.closingSigil = [] ∧
      Text.StopsAt (fun character => parts.sigil.map Sigil.closingChar == some character) closing) ∨
    ∃ sigil, parts.sigil = some sigil ∧ parts.closingSigil = [sigil.closingChar]

/-- The tag with these parts, read with no regard to its line. -/
def toTag (parts : TagParts) (delimiters : Delimiters) (position : Position) (kind : TagKind) :
    Tag where
  kind := kind
  content := parts.content
  position := position
  delimiters := delimiters
  leading := []
  front := delimiters.mark ++ parts.sigilText ++ parts.space
  back := parts.spaceAfter ++ parts.closingSigil ++ delimiters.closing.toList
  trailing := []
  standalone := false

theorem span_toTag (parts : TagParts) (delimiters : Delimiters) (position : Position)
    (kind : TagKind) : (parts.toTag delimiters position kind).span =
      delimiters.mark ++ (parts.inner ++ delimiters.closing.toList) := by
  simp [Tag.span, toTag, inner]

end TagParts

namespace Cursor

theorem takeWhile_eq {cursor : Cursor} {accept : Char → Bool} {front back : List Char}
    (ahead : cursor.rest = front ++ back) (all : ∀ character ∈ front, accept character = true)
    (stops : Text.StopsAt accept back) :
    cursor.takeWhile accept = (front, cursor.pass front back) := by
  unfold Cursor.takeWhile
  rw [ahead, Text.takeWhile_of_stopsAt all stops, Text.dropWhile_of_stopsAt all stops]

theorem takeOne_eq_nil {cursor : Cursor} {accept : Char → Bool}
    (stops : Text.StopsAt accept cursor.rest) : cursor.takeOne accept = ([], cursor) := by
  unfold takeOne
  split
  · rfl
  · rename_i character rest ahead
    rw [ahead, Text.stopsAt_cons] at stops
    rw [stops]
    rfl

theorem takeOne_eq_cons {cursor : Cursor} {accept : Char → Bool} {character : Char}
    {rest : List Char} (ahead : cursor.rest = character :: rest)
    (accepted : accept character = true) :
    cursor.takeOne accept = ([character], cursor.pass [character] rest) := by
  unfold takeOne
  rw [ahead]
  simp only [accepted, if_true]

theorem literal?_eq {cursor : Cursor} {literal rest : List Char} (nonempty : literal ≠ [])
    (ahead : cursor.rest = literal ++ rest) :
    cursor.literal? literal = some (cursor.pass literal rest) := by
  have filled : literal.isEmpty = false := by simpa using nonempty
  unfold literal?
  rw [(Text.stripStart?_eq_some_iff literal cursor.rest rest).2 ahead]
  simp [filled]

theorem pass_pass (cursor : Cursor) (first second before after : List Char) :
    (cursor.pass first before).pass second after = cursor.pass (first ++ second) after := by
  simp [pass, Position.after_append]

end Cursor

end Mustache
