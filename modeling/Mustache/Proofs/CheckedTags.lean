import Mathlib
import Mustache.Proofs.CheckedCursor
import Mustache.Proofs.Progress

/-!
# Tags and texts at checked offsets

Tags and the texts between them, read by a byte cursor that checks its offsets. Names, blanks and
sigils are told byte by byte; a comment ends at a close delimiter that is searched for, and its
length decides where reading goes on.
-/

namespace Mustache

set_option autoImplicit false

/-- What a byte reader keeps of a tag. The offset of its position is where the tag begins. -/
structure ByteTag where
  kind : TagKind
  content : List Char
  position : Position
  leading : List Char
  standalone : Bool

namespace ByteTag

/-- Free text up to the close delimiter, less a repeated sigil and the white space before that. -/
def freeText? (sigil : Sigil) (closing : List Char) (cursor : ByteCursor) :
    Option (Option (List Char × ByteCursor)) := do
  match ← cursor.find? closing with
  | none => return none
  | some last =>
    let raw ← Text.cut? cursor.text cursor.offset last
    let content := Tag.freeContent sigil raw
    let next ← cursor.moveTo? (cursor.offset + Text.byteLength content)
    return some (content, next)

def content? (sigil : Option Sigil) (closing : List Char) (cursor : ByteCursor) :
    Option (Option (List Char × ByteCursor)) :=
  match sigil with
  | none => (cursor.takeWhile? isNameChar).map some
  | some sigil =>
    if sigil.takesFreeText then freeText? sigil closing cursor
    else (cursor.takeWhile? isNameChar).map some

/-- Whether the tag that ends at the cursor is alone on its line, and where reading goes on. -/
def settle? (startsLine : Bool) (after : ByteCursor) : Option (Bool × ByteCursor) :=
  if startsLine then do
    let alone ← after.blankToLineEnd?
    if alone then
      let blanks ← after.takeWhile? Text.isBlank
      let next ← blanks.2.takeLineBreak?
      return (true, next)
    else return (false, after)
  else some (false, after)

/-- The failure as the outcome of reading a tag. -/
def fail? {Result : Type} (text : String) (cause : ParseCause) (position : Position) :
    Option (Except ParseError Result) :=
  (Failure.report? ⟨cause, position⟩ text).map Except.error

/-- Reads a tag from after its open delimiter, which begins at `position` and follows `leading`. -/
def scanInside? (delimiters : Delimiters) (startsLine : Bool) (leading : List Char)
    (position : Position) (inside : ByteCursor) :
    Option (Except ParseError (ByteTag × ByteCursor)) := do
  let sigilText ← inside.takeOne? fun character => (Sigil.ofChar? character).isSome
  let sigil := sigilText.1.head?.bind Sigil.ofChar?
  let space ← sigilText.2.takeWhile? Text.isTagSpace
  match ← content? sigil delimiters.closing.toList space.2 with
  | none => fail? inside.text .unclosedTag position
  | some content =>
    if content.1.isEmpty then
      let place ← Position.ofOffset? inside.text content.2.offset
      fail? inside.text .illegalContent place
    else
      let spaceAfter ← content.2.takeWhile? Text.isTagSpace
      let closingSigil ← spaceAfter.2.takeOne? fun character =>
        sigil.map Sigil.closingChar == some character
      match ← closingSigil.2.literal? delimiters.closing.toList with
      | none => fail? inside.text .unclosedTag position
      | some after =>
        let settled ← settle? (startsLine && sigil.any Sigil.mayStandAlone) after
        match TagKind.of? sigil content.1 with
        | none => fail? inside.text (.malformedDelimiters (String.ofList content.1)) position
        | some kind =>
          return .ok (⟨kind, content.1, position, leading, settled.1⟩, settled.2)

/-- Reads a tag at the cursor, blanks before it included; nothing if none begins there. -/
def scan? (delimiters : Delimiters) (cursor : ByteCursor) :
    Option (Except ParseError (Option (ByteTag × ByteCursor))) := do
  let leading ← cursor.takeWhile? Text.isBlank
  match ← leading.2.literal? delimiters.opening.toList with
  | none => return .ok none
  | some inside =>
    let begins ← inside.back? (Text.byteLength delimiters.opening.toList)
    let position ← Position.ofOffset? cursor.text begins
    let read ← scanInside? delimiters cursor.atLineStart leading.1 position inside
    return read.map some

end ByteTag

/-- Reads text up to the next open delimiter or to the end. -/
def ByteCursor.scanText? (delimiters : Delimiters) (cursor : ByteCursor) :
    Option (List Char × ByteCursor) := do
  match ← cursor.find? delimiters.opening.toList with
  | none => cursor.takeRest?
  | some mark =>
    let last ← cursor.textEnd? mark
    let content ← Text.cut? cursor.text cursor.offset last
    let next ← cursor.moveTo? last
    return (content, next)

def Tag.inBytes (tag : Tag) : ByteTag :=
  ⟨tag.kind, tag.content, tag.position, tag.leading, tag.standalone⟩

theorem asciiOnly_isTagSpace : Text.AsciiOnly Text.isTagSpace := by
  intro character space
  simp only [Text.isTagSpace, Bool.or_eq_true, beq_iff_eq] at space
  rcases space with (((rfl | rfl) | rfl) | rfl) | rfl <;> decide

theorem asciiOnly_isAlphanum : Text.AsciiOnly Char.isAlphanum := by
  intro character inside
  have bounds : (65 ≤ character.toNat ∧ character.toNat ≤ 90 ∨
      97 ≤ character.toNat ∧ character.toNat ≤ 122) ∨
        48 ≤ character.toNat ∧ character.toNat ≤ 57 := by
    simpa [Char.isAlphanum, Char.isAlpha, Char.isUpper, Char.isLower, Char.isDigit,
      UInt32.le_iff_toNat_le] using inside
  omega

theorem asciiOnly_isNameChar : Text.AsciiOnly isNameChar := by
  intro character inside
  simp only [isNameChar, Bool.or_eq_true, beq_iff_eq] at inside
  rcases inside with (((((letter | rfl) | rfl) | rfl) | rfl) | rfl) | rfl
  · exact asciiOnly_isAlphanum character letter
  all_goals decide

theorem asciiOnly_sigil : Text.AsciiOnly fun character => (Sigil.ofChar? character).isSome := by
  intro character known
  obtain ⟨sigil, found⟩ := Option.isSome_iff_exists.1 known
  rw [← Sigil.char_of_ofChar? character sigil found]
  cases sigil <;> decide

theorem asciiOnly_closingChar (sigil : Option Sigil) :
    Text.AsciiOnly fun character => sigil.map Sigil.closingChar == some character := by
  intro character same
  obtain ⟨sigil, -, rfl⟩ := Option.map_eq_some_iff.1 (beq_iff_eq.1 same)
  cases sigil <;> decide

/-- The text that is read up to an open delimiter that is found. -/
theorem Lexer.scanText_of_until? {lexer : Lexer} {before : List Char} {next : Cursor}
    (found : lexer.cursor.until? lexer.delimiters.opening.toList = some (before, next)) :
    lexer.scanText = ((lexer.cursor.take (lexer.cursor.textBefore before).length).1,
      ⟨lexer.delimiters, (lexer.cursor.take (lexer.cursor.textBefore before).length).2⟩) := by
  unfold scanText
  rw [found]
  rfl

namespace ByteTag

variable {text : String} {cursor : Cursor}

theorem fail?_eq {Result : Type} {position : Position} (lies : position.LiesIn text.toList)
    (cause : ParseCause) :
    fail? text cause position =
      some (.error (Failure.report ⟨cause, position⟩ text) : Except ParseError Result) := by
  rw [fail?, Failure.report?_eq lies]
  rfl

theorem freeText?_inBytes (stands : cursor.StandsIn text.toList) (sigil : Sigil)
    (closing : List Char) :
    freeText? sigil closing (cursor.inBytes text) =
      some (((cursor.until? closing).map fun raw =>
        cursor.take (Tag.freeContent sigil raw.1).length).map fun content =>
          (content.1, content.2.inBytes text)) := by
  unfold freeText?
  rw [ByteCursor.find?_inBytes stands]
  cases found : cursor.until? closing with
  | none => rfl
  | some raw =>
    obtain ⟨raw, next⟩ := raw
    have passes := cursor.passes_until? next closing raw found
    have begins : Tag.freeContent sigil raw <+: cursor.rest := by
      rw [passes.1]
      exact (Tag.freeContent_prefix sigil raw).trans (List.prefix_append _ _)
    have cut : Text.cut? (cursor.inBytes text).text (cursor.inBytes text).offset
        next.position.offset = some raw := ByteCursor.cut?_passes stands passes
    have moved : (cursor.inBytes text).moveTo? ((cursor.inBytes text).offset +
        Text.byteLength (Tag.freeContent sigil raw)) =
          some ((cursor.take (Tag.freeContent sigil raw).length).2.inBytes text) :=
      ByteCursor.moveTo?_prefix stands begins
    simp only [Option.bind_eq_bind, Option.map_some, Option.bind_some, cut, moved,
      ByteCursor.take_prefix begins]
    rfl

theorem content?_inBytes (stands : cursor.StandsIn text.toList) (sigil : Option Sigil)
    (closing : List Char) :
    content? sigil closing (cursor.inBytes text) =
      some ((Tag.content? sigil closing cursor).map fun content =>
        (content.1, content.2.inBytes text)) := by
  unfold content? Tag.content?
  cases sigil with
  | none =>
    dsimp only
    rw [ByteCursor.takeWhile?_inBytes asciiOnly_isNameChar stands]
    rfl
  | some sigil =>
    dsimp only
    split
    · exact freeText?_inBytes stands sigil closing
    · rw [ByteCursor.takeWhile?_inBytes asciiOnly_isNameChar stands]
      rfl

theorem settle?_inBytes (stands : cursor.StandsIn text.toList) (startsLine : Bool) :
    settle? startsLine (cursor.inBytes text) =
      some (if startsLine && cursor.blankToLineEnd then
        (true, (cursor.takeWhile Text.isBlank).2.takeLineBreak.2.inBytes text)
      else (false, cursor.inBytes text)) := by
  unfold settle?
  cases startsLine with
  | false => rfl
  | true =>
    have atBreak := stands.passes (cursor.passes_takeWhile Text.isBlank)
    rw [if_pos rfl, ByteCursor.blankToLineEnd?_inBytes stands]
    dsimp only [Bind.bind, Option.bind]
    cases cursor.blankToLineEnd with
    | false => rfl
    | true =>
      rw [if_pos rfl, ByteCursor.takeWhile?_inBytes ByteCursor.asciiOnly_isBlank stands]
      dsimp only
      rw [ByteCursor.takeLineBreak?_inBytes atBreak]
      rfl

/-- At the place of a character cursor, a tag is read as that cursor reads it. -/
theorem scanInside?_inBytes (stands : cursor.StandsIn text.toList) {position : Position}
    (begins : position.LiesIn text.toList) (delimiters : Delimiters) (startsLine : Bool)
    (leading : List Char) :
    scanInside? delimiters startsLine leading position (cursor.inBytes text) =
      some (reported text (fun read => (read.1.inBytes, read.2.inBytes text))
        (Tag.scanInside delimiters startsLine leading position cursor)) := by
  have atSigil := stands.passes (cursor.passes_takeOne fun character =>
    (Sigil.ofChar? character).isSome)
  have atContent := atSigil.passes (Cursor.passes_takeWhile _ Text.isTagSpace)
  unfold scanInside? Tag.scanInside
  simp only [Option.bind_eq_bind, Option.bind_some,
    ByteCursor.takeOne?_inBytes asciiOnly_sigil stands,
    ByteCursor.takeWhile?_inBytes asciiOnly_isTagSpace atSigil, content?_inBytes atContent]
  generalize (cursor.takeOne _).1.head?.bind Sigil.ofChar? = sigil
  cases found : Tag.content? sigil _ _ with
  | none => exact fail?_eq begins _
  | some content =>
    have behind := atContent.passes (Tag.passes_content? _ _ _ _ found)
    have beforeSigil := behind.passes (Cursor.passes_takeWhile _ Text.isTagSpace)
    have beforeClose := beforeSigil.passes (Cursor.passes_takeOne _ fun character =>
      sigil.map Sigil.closingChar == some character)
    simp only [Option.map_some]
    split
    · have place : Position.ofOffset? (cursor.inBytes text).text (content.2.inBytes text).offset =
          some content.2.position := ByteCursor.ofOffset?_inBytes behind
      rw [place, Option.bind_some]
      exact fail?_eq behind.liesIn _
    · simp only [ByteCursor.takeWhile?_inBytes asciiOnly_isTagSpace behind, Option.bind_some,
        ByteCursor.takeOne?_inBytes (asciiOnly_closingChar _) beforeSigil,
        ByteCursor.literal?_inBytes beforeClose]
      cases closed : Cursor.literal? _ _ with
      | none => exact fail?_eq begins _
      | some after =>
        have standsAfter := beforeClose.passes (Cursor.passes_literal? _ _ _ closed).1
        simp only [Option.map_some, settle?_inBytes standsAfter, Option.bind_some]
        cases TagKind.of? _ _ with
        | none => exact fail?_eq begins _
        | some kind =>
          dsimp only
          split
          · rfl
          · rfl

variable {lexer : Lexer}

/-- At the place of a lexer, the scanner of tags finds what the lexer finds. -/
theorem scan?_inBytes (stands : lexer.cursor.StandsIn text.toList) :
    scan? lexer.delimiters (lexer.cursor.inBytes text) =
      some (reported text
        (Option.map fun read : Tag × Lexer => (read.1.inBytes, read.2.cursor.inBytes text))
        lexer.scanTag) := by
  have atTag := stands.passes (lexer.cursor.passes_takeWhile Text.isBlank)
  unfold scan? Lexer.scanTag
  simp only [ByteCursor.takeWhile?_inBytes ByteCursor.asciiOnly_isBlank stands,
    Option.bind_eq_bind, Option.bind_some, ByteCursor.literal?_inBytes atTag]
  cases entered : Cursor.literal? _ _ with
  | none => rfl
  | some inside =>
    have passes := (Cursor.passes_literal? _ _ _ entered).1
    have place : Position.ofOffset? (lexer.cursor.inBytes text).text
        (lexer.cursor.takeWhile Text.isBlank).2.position.offset =
          some (lexer.cursor.takeWhile Text.isBlank).2.position :=
      ByteCursor.ofOffset?_inBytes atTag
    simp only [Option.map_some, Option.bind_some, ByteCursor.back?_passes passes, place,
      ByteCursor.atLineStart_inBytes stands,
      scanInside?_inBytes (atTag.passes passes) atTag.liesIn]
    cases Tag.scanInside _ _ _ _ _ with
    | error failure => rfl
    | ok read => rfl

/-- At the place of a lexer, the scanner of text reads what the lexer reads. -/
theorem scanText?_inBytes (stands : lexer.cursor.StandsIn text.toList) :
    (lexer.cursor.inBytes text).scanText? lexer.delimiters =
      some (lexer.scanText.1, lexer.scanText.2.cursor.inBytes text) := by
  unfold ByteCursor.scanText?
  simp only [ByteCursor.find?_inBytes stands, Option.bind_eq_bind, Option.bind_some]
  cases found : lexer.cursor.until? lexer.delimiters.opening.toList with
  | none =>
    unfold Lexer.scanText
    rw [found]
    exact ByteCursor.takeRest?_inBytes stands
  | some parts =>
    obtain ⟨before, next⟩ := parts
    have passes := lexer.cursor.passes_until? next _ before found
    have begins : lexer.cursor.textBefore before <+: lexer.cursor.rest := by
      rw [passes.1]
      exact (lexer.cursor.textBefore_prefix before).trans (List.prefix_append _ _)
    have cut : Text.cut? (lexer.cursor.inBytes text).text (lexer.cursor.inBytes text).offset
        (lexer.cursor.position.offset + Text.byteLength (lexer.cursor.textBefore before)) =
          some (lexer.cursor.textBefore before) := ByteCursor.cut?_prefix stands begins
    rw [Lexer.scanText_of_until? found]
    simp only [Option.map_some, ByteCursor.textEnd?_inBytes stands passes, Option.bind_some, cut,
      ByteCursor.moveTo?_prefix stands begins, ByteCursor.take_prefix begins]
    rfl

end ByteTag

end Mustache
