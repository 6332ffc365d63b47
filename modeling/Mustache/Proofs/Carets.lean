import Mustache.Proofs.ByteOffsets

/-!
# The caret under an error

A report ends with the line of the error and a caret below it. Columns count bytes, and the caret
has one space before it for each of them. So it stands under the place of the error exactly if that
line is ASCII up to there, and further to the right otherwise.
-/

namespace Mustache

set_option autoImplicit false

namespace Text

/-- Every character is one byte of UTF-8. -/
def Ascii (text : List Char) : Prop := ∀ character ∈ text, character.toNat < 128

theorem utf8Size_eq_one_iff (character : Char) :
    character.utf8Size = 1 ↔ character.toNat < 128 := by
  rw [Char.utf8Size_eq_one_iff, UInt32.le_iff_toNat_le]
  exact Nat.lt_succ_iff.symm

/-- A text has as many bytes as characters if it is ASCII, and more otherwise. -/
theorem byteLength_eq_length_iff (text : List Char) : byteLength text = text.length ↔ Ascii text := by
  unfold Ascii
  induction text with
  | nil => simp
  | cons character rest ih =>
    have positive := character.utf8Size_pos
    have enough := length_le_byteLength rest
    rw [byteLength_cons, List.length_cons, List.forall_mem_cons, ← ih, ← utf8Size_eq_one_iff]
    omega

/-- A line without the carriage return that it may end in. -/
def withoutReturn (line : List Char) : List Char :=
  if line.getLast? = some '\r' then line.dropLast else line

/-- What leads up to a place on a line leads up to one on the line without its carriage return,
unless it is the whole line and ends in that. -/
theorem prefix_withoutReturn (before behind : List Char) :
    before <+: withoutReturn (before ++ behind) ∨
      behind = [] ∧ before = withoutReturn (before ++ behind) ++ ['\r'] := by
  unfold withoutReturn
  split
  · rename_i returned
    by_cases ended : behind = []
    · subst ended
      rw [List.append_nil] at returned ⊢
      obtain ⟨front, rfl⟩ := List.getLast?_eq_some_iff.1 returned
      exact .inr ⟨rfl, by rw [List.dropLast_concat]⟩
    · rw [List.dropLast_append_of_ne_nil ended]
      exact .inl (List.prefix_append _ _)
  · exact .inl (List.prefix_append _ _)

end Text

/-- The position is that of a place in the text, in front of which `before` stands on its line. -/
structure Position.PointsBehind (position : Position) (source lines before behind : List Char) :
    Prop where
  split : source = lines ++ (before ++ behind)
  ends : Text.EndsLine lines
  unbroken : '\n' ∉ before
  reached : position = start.after (lines ++ before)

namespace Position.PointsBehind

variable {position : Position} {lines before behind : List Char}

theorem of_liesIn {source : List Char} (lies : position.LiesIn source) :
    ∃ lines before behind, position.PointsBehind source lines before behind := by
  obtain ⟨front, behind, split, reached⟩ := lies
  obtain ⟨lines, before, rfl, ends, unbroken⟩ := Text.exists_lines front
  exact ⟨lines, before, behind, by rw [split, List.append_assoc], ends, unbroken, reached⟩

/-- The column counts the bytes that the line has before the place. -/
theorem column_eq {source : List Char} (points : position.PointsBehind source lines before behind) :
    position.column = Text.byteLength before := by
  have sum := offset_eq_after start (lines ++ before) rfl
  have offset := offset_start_after (lines ++ before)
  have lineStart := lineStart_after points.ends points.unbroken
  rw [← points.reached] at sum offset lineStart
  rw [Text.byteLength_append] at offset
  omega

theorem lineText_eq {source : String}
    (points : position.PointsBehind source.toList lines before behind) :
    (position.lineText source).toList =
      Text.withoutReturn (before ++ behind.takeWhile (· != '\n')) := by
  unfold lineText lineAt
  rw [points.reached, lineStart_after points.ends points.unbroken, points.split,
    Text.dropBytes_byteLength, Text.takeWhile_line points.unbroken, String.toList_ofList]
  rfl

end Position.PointsBehind

/-- The report of an error ends with its line, indented by four spaces, and with a caret below, which
is indented by four spaces and one more for each byte that the line has before the place of the
error. These are as many as there are characters exactly if all of these are ASCII. The place is one
on that line or at its end, unless it lies behind a carriage return that the line is shown without. -/
theorem parse_caret (delimiters : Delimiters) (source : String) (error : ParseError)
    (failed : parse delimiters source = .error error) :
    ∃ lines before behind, error.position.PointsBehind source.toList lines before behind ∧
      error.message = error.cause.message ++ "\n  Line " ++ Nat.repr error.line ++ "\n    " ++
        error.context ++ "\n    " ++
        String.ofList (List.replicate (Text.byteLength before) ' ') ++ "^" ∧
      (Text.byteLength before = before.length ↔ Text.Ascii before) ∧
      error.context.toList = Text.withoutReturn (before ++ behind.takeWhile (· != '\n')) ∧
      (before <+: error.context.toList ∨
        (behind = [] ∨ behind.head? = some '\n') ∧ before = error.context.toList ++ ['\r']) := by
  unfold parse at failed
  split at failed
  · rename_i failure violated
    cases failed
    obtain ⟨lines, before, behind, points⟩ :=
      Position.PointsBehind.of_liesIn (Lexing.liesIn_toNodes violated)
    have context : (failure.report source).context.toList =
        Text.withoutReturn (before ++ behind.takeWhile (· != '\n')) := points.lineText_eq
    refine ⟨lines, before, behind, points, ?_, Text.byteLength_eq_length_iff before, context, ?_⟩
    · have column : (failure.report source).column - 1 = Text.byteLength before := points.column_eq
      rw [ParseError.message, column]
    · rw [context]
      rcases Text.prefix_withoutReturn before (behind.takeWhile (· != '\n')) with
        inside | ⟨ended, past⟩
      · exact .inl inside
      · refine .inr ⟨?_, past⟩
        cases behind with
        | nil => exact .inl rfl
        | cons head rest =>
          have newline : head = '\n' := by simpa using ended
          exact .inr (congrArg some newline)
  · cases failed

theorem parse_caret_second_line :
    ∃ error, parse .standard "a\r\nbc \x7b\x7b!" = .error error ∧ error.context = "bc \x7b\x7b!" ∧
      ∃ lines before behind,
        error.position.PointsBehind "a\r\nbc \x7b\x7b!".toList lines before behind ∧
          before <+: error.context.toList ∧ Text.byteLength before = 3 := by
  have failed : parse .standard "a\r\nbc \x7b\x7b!" =
      .error ⟨.unclosedTag, ⟨6, 3, 1, 3⟩, "bc \x7b\x7b!"⟩ := by cbv
  obtain ⟨lines, before, behind, points, -, -, -, place⟩ := parse_caret _ _ _ failed
  have column := points.column_eq
  refine ⟨_, failed, rfl, lines, before, behind, points, ?_, column.symm⟩
  rcases place with inside | ⟨-, past⟩
  · exact inside
  · rw [past] at column
    have spaces : 3 = Text.byteLength ("bc \x7b\x7b!".toList ++ ['\r']) := column
    exact absurd spaces (by decide)

/-- Behind a character of two bytes the caret stands one place too far right, and a carriage return
that ends the text is counted though it is not shown. -/
theorem caret_beside_place :
    (∃ error, parse .standard "\u00e9\x7b\x7b\x7d\x7d" = .error error ∧
      error.position.PointsBehind "\u00e9\x7b\x7b\x7d\x7d".toList []
        "\u00e9\x7b\x7b".toList "\x7d\x7d".toList ∧
      "\u00e9\x7b\x7b".toList.length = 3 ∧
      error.message =
        "Illegal content in tag\n  Line 1\n    \u00e9\x7b\x7b\x7d\x7d\n        ^") ∧
    ∃ error, parse .standard "\x7b\x7b\r" = .error error ∧
      error.position.PointsBehind "\x7b\x7b\r".toList [] "\x7b\x7b\r".toList [] ∧
      error.context = "\x7b\x7b" ∧
      error.message = "Illegal content in tag\n  Line 1\n    \x7b\x7b\n       ^" := by
  have wide : parse .standard "\u00e9\x7b\x7b\x7d\x7d" =
      .error ⟨.illegalContent, ⟨4, 0, 0, 4⟩, "\u00e9\x7b\x7b\x7d\x7d"⟩ := by cbv
  have returned : parse .standard "\x7b\x7b\r" =
      .error ⟨.illegalContent, ⟨3, 0, 0, 3⟩, "\x7b\x7b"⟩ := by cbv
  refine ⟨⟨_, wide, ⟨rfl, .inl rfl, by decide, by decide⟩, rfl, rfl⟩, _, returned,
    ⟨rfl, .inl rfl, by decide, by decide⟩, rfl, rfl⟩

end Mustache
