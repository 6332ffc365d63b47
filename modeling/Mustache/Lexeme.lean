import Mustache.Cursor
import Mustache.Delimiters
import Mustache.ParseError
import Mustache.Sigil

/-!
# Lexemes

A template is a row of literal texts and tags. Each lexeme keeps every character it was read from,
so a row of lexemes spells out the source it covers (`passes_next?`), and each covers at least one
character, which bounds the number of steps.

Reading a tag needs no knowledge of the sections around it. How tags nest is the matter of the tree
built from them.
-/

namespace Mustache

set_option autoImplicit false

/-- What a tag does. -/
inductive TagKind where
  | escaped
  | unescaped
  | openSection (inverted : Bool)
  | closeSection
  | partialTag
  | comment
  | setDelimiters (pair : Delimiters)
deriving Repr, DecidableEq, Inhabited

/-- What a sigil and a content ask for; nothing if the content is no pair of delimiters where one
is needed. -/
def TagKind.of? (sigil : Option Sigil) (content : List Char) : Option TagKind :=
  match sigil with
  | none => some escaped
  | some .ampersand => some unescaped
  | some .brace => some unescaped
  | some .hash => some (openSection false)
  | some .caret => some (openSection true)
  | some .slash => some closeSection
  | some .less => some partialTag
  | some .greater => some partialTag
  | some .bang => some comment
  | some .equals => (Delimiters.parse? content).map setDelimiters

/-- A tag and the text it was read from. -/
structure Tag where
  kind : TagKind
  /-- The name or free text inside the tag. -/
  content : List Char
  /-- Where the open delimiter begins. -/
  position : Position
  /-- The delimiters the tag is written with. -/
  delimiters : Delimiters
  /-- The blanks between the previous lexeme and the open delimiter. -/
  leading : List Char
  /-- The open delimiter, the sigil and the space before the content. -/
  front : List Char
  /-- The space after the content, the closing sigil and the close delimiter. -/
  back : List Char
  /-- The blanks and the line break that a standalone tag takes with it. -/
  trailing : List Char
  /-- Whether the tag is alone on its line. -/
  standalone : Bool
deriving Repr, DecidableEq, Inhabited

namespace Tag

/-- The source from the open delimiter through the close delimiter. -/
def span (tag : Tag) : List Char := tag.front ++ tag.content ++ tag.back

/-- All characters that the tag was read from. -/
def source (tag : Tag) : List Char := tag.leading ++ tag.span ++ tag.trailing

/-- The name or free text inside the tag. -/
def name (tag : Tag) : String := String.ofList tag.content

/-- The blanks before a standalone tag; other tags leave them in the output. -/
def indentation (tag : Tag) : List Char := if tag.standalone then tag.leading else []

/-- The delimiters in force after the tag. -/
def delimitersAfter (tag : Tag) : Delimiters :=
  match tag.kind with
  | .setDelimiters pair => pair
  | _ => tag.delimiters

/-- The content of a free text tag, of which `raw` is all up to the close delimiter. The sigil may
be repeated at the end; white space before that or before the close delimiter is not content. -/
def freeContent (sigil : Sigil) (raw : List Char) : List Char :=
  Text.trimEnd (if raw.getLast? = some sigil.char then raw.dropLast else raw)

/-- Reads the content of a tag: free text for the sigils that take it, otherwise the longest run of
name characters. Free text without a close delimiter after it is nothing. -/
def content? (sigil : Option Sigil) (closing : List Char) (cursor : Cursor) :
    Option (List Char × Cursor) :=
  match sigil with
  | none => some (cursor.takeWhile isNameChar)
  | some sigil =>
    if sigil.takesFreeText then
      (cursor.until? closing).map fun raw => cursor.take (freeContent sigil raw.1).length
    else some (cursor.takeWhile isNameChar)

/-- Reads a tag from after its open delimiter, which begins at `position` and follows `leading`. -/
def scanInside (delimiters : Delimiters) (atLineStart : Bool) (leading : List Char)
    (position : Position) (inside : Cursor) : Except Failure (Tag × Cursor) :=
  let closing := delimiters.closing.toList
  let sigilText := inside.takeOne fun character => (Sigil.ofChar? character).isSome
  let sigil := sigilText.1.head?.bind Sigil.ofChar?
  let space := sigilText.2.takeWhile Text.isTagSpace
  match content? sigil closing space.2 with
  | none => .error ⟨.unclosedTag, position⟩
  | some content =>
    if content.1.isEmpty then .error ⟨.illegalContent, content.2.position⟩
    else
      let spaceAfter := content.2.takeWhile Text.isTagSpace
      let closingSigil := spaceAfter.2.takeOne fun character =>
        sigil.map Sigil.closingChar == some character
      match closingSigil.2.literal? closing with
      | none => .error ⟨.unclosedTag, position⟩
      | some after =>
        match TagKind.of? sigil content.1 with
        | none => .error ⟨.malformedDelimiters (String.ofList content.1), position⟩
        | some kind =>
          let front := delimiters.mark ++ sigilText.1 ++ space.1
          let back := spaceAfter.1 ++ closingSigil.1 ++ closing
          if atLineStart && sigil.any Sigil.mayStandAlone && after.blankToLineEnd then
            let blanks := after.takeWhile Text.isBlank
            let lineBreak := blanks.2.takeLineBreak
            .ok (⟨kind, content.1, position, delimiters, leading, front, back,
              blanks.1 ++ lineBreak.1, true⟩, lineBreak.2)
          else
            .ok (⟨kind, content.1, position, delimiters, leading, front, back, [], false⟩, after)

/-- Reads a tag at the cursor, blanks before it included; nothing if none begins there. -/
def scan? (delimiters : Delimiters) (cursor : Cursor) : Option (Except Failure (Tag × Cursor)) :=
  let leading := cursor.takeWhile Text.isBlank
  (leading.2.literal? delimiters.mark).map fun inside =>
    scanInside delimiters cursor.atLineStart leading.1 leading.2.position inside

end Tag

/-- A literal text or a tag. -/
inductive Lexeme where
  | text (content : List Char)
  | tag (tag : Tag)
deriving Repr, DecidableEq, Inhabited

namespace Lexeme

/-- All characters that the lexeme was read from. -/
def source : Lexeme → List Char
  | .text content => content
  | .tag found => found.source

/-- The text without the blanks at its end if a line begins with them. They belong to the tag that
follows, which may be alone on its line. -/
def withoutIndentation (text : List Char) : List Char :=
  let kept := (text.reverse.dropWhile Text.isBlank).reverse
  if kept.getLast? = some '\n' then kept else text

/-- The literal text at a place where no tag begins: up to the next open delimiter or the end. -/
def literal (mark : List Char) (first : Char) (rest : List Char) : List Char :=
  match Text.splitAt? mark rest with
  | none => first :: rest
  | some (before, _) => withoutIndentation (first :: before)

end Lexeme

/-- What is left to read, and the delimiters in force. -/
structure Lexer where
  delimiters : Delimiters
  cursor : Cursor
deriving Repr, DecidableEq, Inhabited

namespace Lexer

/-- The lexer at the beginning of a text. -/
def ofText (delimiters : Delimiters) (text : List Char) : Lexer :=
  ⟨delimiters, Cursor.ofText text⟩

/-- Reads one lexeme, or nothing at the end of the text. -/
def next? (lexer : Lexer) : Option (Except Failure (Lexeme × Lexer)) :=
  match lexer.cursor.rest with
  | [] => none
  | first :: rest =>
    match Tag.scan? lexer.delimiters lexer.cursor with
    | some (.error failure) => some (.error failure)
    | some (.ok (tag, cursor)) => some (.ok (.tag tag, ⟨tag.delimitersAfter, cursor⟩))
    | none =>
      let text := lexer.cursor.take (Lexeme.literal lexer.delimiters.mark first rest).length
      some (.ok (.text text.1, ⟨lexer.delimiters, text.2⟩))

end Lexer

/-- The row of lexemes of a text, up to its end or to the first tag that cannot be read. -/
structure Lexing where
  lexemes : List Lexeme
  failure : Option Failure
deriving Repr, DecidableEq, Inhabited

theorem Tag.passes_content? (sigil : Option Sigil) (closing : List Char) (cursor : Cursor)
    (content : List Char × Cursor) (found : Tag.content? sigil closing cursor = some content) :
    cursor.Passes content.1 content.2 := by
  unfold Tag.content? at found
  split at found
  · cases found
    exact cursor.passes_takeWhile isNameChar
  · split at found
    · obtain ⟨raw, _, rfl⟩ := Option.map_eq_some_iff.1 found
      exact cursor.passes_take _
    · cases found
      exact cursor.passes_takeWhile isNameChar

/-- A tag read from inside covers the text between the two cursors. -/
theorem Tag.passes_scanInside (delimiters : Delimiters) (atLineStart : Bool) (leading : List Char)
    (start inside next : Cursor) (tag : Tag) (entered : start.Passes delimiters.mark inside)
    (read : Tag.scanInside delimiters atLineStart leading start.position inside = .ok (tag, next)) :
    start.Passes (tag.span ++ tag.trailing) next ∧ tag.leading = leading ∧ tag.content ≠ [] := by
  unfold Tag.scanInside at read
  dsimp only at read
  split at read
  · cases read
  · rename_i content found
    split at read
    · cases read
    · rename_i nonempty
      split at read
      · cases read
      · rename_i after closed
        split at read
        · cases read
        · rename_i kind known
          have atContent := (entered.trans (inside.passes_takeOne
            fun character => (Sigil.ofChar? character).isSome)).trans
              (Cursor.passes_takeWhile _ Text.isTagSpace)
          have atEnd := (((atContent.trans (Tag.passes_content? _ _ _ _ found)).trans
            (Cursor.passes_takeWhile _ Text.isTagSpace)).trans
              (Cursor.passes_takeOne _ _)).trans (Cursor.passes_literal? _ _ _ closed).1
          split at read
          · simp only [Except.ok.injEq, Prod.mk.injEq] at read
            obtain ⟨rfl, rfl⟩ := read
            refine ⟨?_, rfl, by simpa using nonempty⟩
            have line := (atEnd.trans (Cursor.passes_takeWhile _ Text.isBlank)).trans
              (Cursor.passes_takeLineBreak _)
            simpa [Tag.span] using line
          · simp only [Except.ok.injEq, Prod.mk.injEq] at read
            obtain ⟨rfl, rfl⟩ := read
            refine ⟨?_, rfl, by simpa using nonempty⟩
            simpa [Tag.span] using atEnd

/-- A tag covers exactly the text that reading it consumes. -/
theorem Tag.passes_scan? (delimiters : Delimiters) (cursor next : Cursor) (tag : Tag)
    (read : Tag.scan? delimiters cursor = some (.ok (tag, next))) :
    cursor.Passes tag.source next ∧ tag.content ≠ [] := by
  obtain ⟨inside, entered, scanned⟩ := Option.map_eq_some_iff.1 read
  have passes := Tag.passes_scanInside delimiters cursor.atLineStart _ _ inside next tag
    (Cursor.passes_literal? _ _ _ entered).1 scanned
  refine ⟨?_, passes.2.2⟩
  have whole := (cursor.passes_takeWhile Text.isBlank).trans passes.1
  simpa [Tag.source, passes.2.1] using whole

theorem Lexeme.literal_ne_nil (mark : List Char) (first : Char) (rest : List Char) :
    Lexeme.literal mark first rest ≠ [] := by
  unfold Lexeme.literal
  split
  · simp
  · unfold Lexeme.withoutIndentation
    dsimp only
    split
    · rename_i ends
      intro empty
      rw [empty] at ends
      cases ends
    · simp

/-- A lexeme covers exactly the text that reading it consumes, which is at least one character. -/
theorem Lexer.passes_next? (lexer next : Lexer) (lexeme : Lexeme)
    (read : lexer.next? = some (.ok (lexeme, next))) :
    lexer.cursor.Passes lexeme.source next.cursor ∧ lexeme.source ≠ [] := by
  unfold Lexer.next? at read
  split at read
  · cases read
  · rename_i first rest ahead
    split at read
    · cases read
    · rename_i tag cursor scanned
      simp only [Option.some.injEq, Except.ok.injEq, Prod.mk.injEq] at read
      obtain ⟨rfl, rfl⟩ := read
      have passes := Tag.passes_scan? _ _ _ _ scanned
      refine ⟨passes.1, ?_⟩
      simp [Lexeme.source, Tag.source, Tag.span, passes.2]
    · simp only [Option.some.injEq, Except.ok.injEq, Prod.mk.injEq] at read
      obtain ⟨rfl, rfl⟩ := read
      refine ⟨Cursor.passes_take _ _, ?_⟩
      have nonempty := Lexeme.literal_ne_nil lexer.delimiters.mark first rest
      simpa [Lexeme.source, Cursor.take, ahead] using nonempty

namespace Lexer

/-- Reading a lexeme leaves less to read. -/
theorem length_next? (lexer next : Lexer) (lexeme : Lexeme)
    (read : lexer.next? = some (.ok (lexeme, next))) :
    next.cursor.rest.length < lexer.cursor.rest.length := by
  have passes := lexer.passes_next? next lexeme read
  have positive := List.length_pos_iff.2 passes.2
  rw [passes.1.1, List.length_append]
  omega

/-- Reads all lexemes; `found` holds those already read, newest first. -/
def collect (lexer : Lexer) (found : List Lexeme) : Lexing :=
  match _read : lexer.next? with
  | none => ⟨found.reverse, none⟩
  | some (.error failure) => ⟨found.reverse, some failure⟩
  | some (.ok (lexeme, next)) => next.collect (lexeme :: found)
termination_by lexer.cursor.rest.length
decreasing_by exact lexer.length_next? next lexeme _read

end Lexer

def Lexing.ofText (delimiters : Delimiters) (text : List Char) : Lexing :=
  (Lexer.ofText delimiters text).collect []

end Mustache
