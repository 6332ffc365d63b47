import Mustache.Proofs.Carets
import Mustache.Proofs.TagPositions

/-!
# Lines and columns

Every byte offset of a text has its line and its column, also one that lies inside a character.
Reading on never takes the position back, so offsets are in the order of line and column and no two
of them share both. Line and column are those of the text around the offset: the line starts behind
the last line break before it and ends at the next one.
-/

namespace Mustache

set_option autoImplicit false

/-- A cut after so many bytes is in front of the text or inside its first character. -/
def Text.WithinFirst (bytes : Nat) (text : List Char) : Prop :=
  bytes = 0 ∨ ∃ character rest, text = character :: rest ∧ bytes < character.utf8Size

namespace Position

/-- Line and column, compared by line first. -/
def lineColumn (position : Position) : Nat ×ₗ Nat := toLex (position.line, position.column)

/-- Some bytes further on the line. -/
def advance (position : Position) (bytes : Nat) : Position :=
  { position with offset := position.offset + bytes, column := position.column + bytes }

/-- The offset is on the line that the position names, as many bytes behind its start as the column
says, and this is the line whose text is shown. -/
structure Describes (position : Position) (source : String) (offset : Nat) : Prop where
  offset_eq : position.offset = offset
  sum : offset = position.lineStart + position.column
  unbroken : 10 ∉ ((Text.bytes source.toList).drop position.lineStart).take position.column
  line : ∃ line lines rest, position.OnLine source.toList line lines rest ∧
    position.lineStart = Text.byteLength lines ∧
      position.lineText source = String.ofList (Text.withoutReturn line)

section Order

theorem locateFrom_inside {position : Position} {character : Char} {target : Nat}
    (short : target < position.offset + character.utf8Size) (rest : List Char) :
    locateFrom position target (character :: rest) = position.advance (target - position.offset) :=
  if_neg (Nat.not_le.2 short)

theorem locateFrom_past {position : Position} {target : Nat} {text : List Char}
    (past : position.offset + Text.byteLength text ≤ target) :
    locateFrom position target text = position.after text := by
  induction text generalizing position with
  | nil => rfl
  | cons character rest ih =>
    rw [Text.byteLength_cons, ← Nat.add_assoc] at past
    rw [locateFrom, if_pos (Nat.le_trans (Nat.le_add_right _ _) past), after_cons]
    exact ih (by rwa [offset_next])

/-- Within a character, the position is before the one behind it. -/
theorem lineColumn_advance_lt_next {position : Position} {character : Char} {bytes : Nat}
    (short : bytes < character.utf8Size) :
    (position.advance bytes).lineColumn < (position.next character).lineColumn := by
  rw [lineColumn, lineColumn, Prod.Lex.toLex_lt_toLex]
  by_cases newline : character = '\n'
  · subst newline
    exact .inl (Nat.lt_succ_self _)
  · rw [next, if_neg newline]
    exact .inr ⟨rfl, Nat.add_lt_add_left short _⟩

theorem lineColumn_le_advance (position : Position) (bytes : Nat) :
    position.lineColumn ≤ (position.advance bytes).lineColumn :=
  Prod.Lex.toLex_le_toLex.2 (.inr ⟨rfl, Nat.le_add_right _ _⟩)

theorem lineColumn_le_locateFrom (position : Position) (target : Nat) (text : List Char) :
    position.lineColumn ≤ (locateFrom position target text).lineColumn := by
  induction text generalizing position with
  | nil => exact le_refl _
  | cons character rest ih =>
    by_cases reached : position.offset + character.utf8Size ≤ target
    · rw [locateFrom, if_pos reached]
      have stepped : position.lineColumn < (position.next character).lineColumn :=
        lineColumn_advance_lt_next character.utf8Size_pos
      exact (le_of_lt stepped).trans (ih _)
    · rw [locateFrom_inside (Nat.not_le.1 reached)]
      exact lineColumn_le_advance _ _

/-- A later offset has a later line, or the same and a later column. -/
theorem lineColumn_locateFrom_lt {position : Position} {first second : Nat} {text : List Char}
    (begun : position.offset ≤ first) (later : first < second)
    (bound : second ≤ position.offset + Text.byteLength text) :
    (locateFrom position first text).lineColumn < (locateFrom position second text).lineColumn := by
  induction text generalizing position with
  | nil =>
    rw [Text.byteLength_nil] at bound
    omega
  | cons character rest ih =>
    by_cases passed : position.offset + character.utf8Size ≤ first
    · rw [locateFrom, if_pos passed, locateFrom, if_pos (Nat.le_trans passed (Nat.le_of_lt later))]
      rw [Text.byteLength_cons, ← Nat.add_assoc] at bound
      exact ih (by rwa [offset_next]) (by rwa [offset_next])
    · rw [locateFrom_inside (Nat.not_le.1 passed)]
      by_cases reached : position.offset + character.utf8Size ≤ second
      · rw [locateFrom, if_pos reached]
        have short : first - position.offset < character.utf8Size := by omega
        exact (lineColumn_advance_lt_next short).trans_le (lineColumn_le_locateFrom _ _ _)
      · rw [locateFrom_inside (Nat.not_le.1 reached)]
        refine Prod.Lex.toLex_lt_toLex.2 (.inr ⟨rfl, ?_⟩)
        change position.column + _ < position.column + _
        omega

end Order

/-- An offset lies behind whole characters, or some bytes further in the one that follows. -/
theorem exists_front {position : Position} {target : Nat} {text : List Char}
    (begun : position.offset ≤ target) (bound : target ≤ position.offset + Text.byteLength text) :
    ∃ front back bytes, text = front ++ back ∧
      locateFrom position target text = (position.after front).advance bytes ∧
      target = (position.after front).offset + bytes ∧
      Text.WithinFirst bytes back := by
  induction text generalizing position with
  | nil => exact ⟨[], [], 0, rfl, rfl, Nat.le_antisymm bound begun, .inl rfl⟩
  | cons character rest ih =>
    by_cases reached : position.offset + character.utf8Size ≤ target
    · rw [Text.byteLength_cons, ← Nat.add_assoc] at bound
      rw [← offset_next] at reached bound
      obtain ⟨front, back, bytes, split, located, sum, within⟩ := ih reached bound
      rw [offset_next] at reached
      refine ⟨character :: front, back, bytes, congrArg (character :: ·) split, ?_, sum, within⟩
      rw [locateFrom, if_pos reached, located, after_cons]
    · have short := Nat.not_le.1 reached
      refine ⟨[], character :: rest, target - position.offset, rfl, locateFrom_inside short rest,
        ?_, .inr ⟨character, rest, rfl, ?_⟩⟩
      · exact (Nat.add_sub_cancel' begun).symm
      · omega

variable {source lines before behind : List Char} {position : Position} {bytes : Nat}

/-- A place some bytes inside a character is on the line of that character. -/
theorem PointsBehind.onLine_advance (points : position.PointsBehind source lines before behind)
    (within : Text.WithinFirst bytes behind) :
    (position.advance bytes).OnLine source (before ++ behind.takeWhile (· != '\n')) lines
      (behind.dropWhile (· != '\n')) := by
  have further : bytes ≤ Text.byteLength (behind.takeWhile (· != '\n')) := by
    rcases within with rfl | ⟨character, rest, rfl, short⟩
    · exact Nat.zero_le _
    · by_cases newline : character = '\n'
      -- A line break has one byte, so no offset lies inside it.
      · subst newline
        have start : bytes = 0 := Nat.lt_one_iff.1 short
        exact start ▸ Nat.zero_le _
      · have kept : (character != '\n') = true := bne_iff_ne.2 newline
        rw [List.takeWhile_cons, if_pos kept, Text.byteLength_cons]
        omega
  have offset : position.offset = Text.byteLength (lines ++ before) := by
    rw [points.reached, offset_start_after]
  have onLine := points.onLine
  refine ⟨onLine.split, onLine.ends, onLine.unbroken, onLine.stops, onLine.number,
    onLine.behind.trans (Nat.le_add_right _ _), ?_⟩
  change position.offset + bytes ≤ _
  rw [offset, ← List.append_assoc, Text.byteLength_append _ (behind.takeWhile _)]
  exact Nat.add_le_add_left further _

/-- Between the start of a line and a place on it there is no byte of a line break. -/
theorem OnLine.notMem_bytes {line rest : List Char}
    (onLine : position.OnLine source line lines rest)
    (lineStart : position.lineStart = Text.byteLength lines)
    (sum : position.offset = position.lineStart + position.column) :
    10 ∉ ((Text.bytes source).drop position.lineStart).take position.column := by
  have bound := onLine.before
  rw [sum, lineStart, Text.byteLength_append, Nat.add_le_add_iff_left, ← Text.length_bytes] at bound
  rw [onLine.split, lineStart, Text.bytes_append, Text.bytes_append, ← Text.length_bytes,
    List.drop_left, List.take_append_of_le_length bound]
  intro newline
  have other := Text.not_mem_bytes onLine.unbroken 10 (List.mem_of_mem_take newline)
  exact absurd other (by decide)

/-- The line of a place is shown also for the offsets inside the character that stands there. -/
theorem PointsBehind.describes_advance {source : String}
    (points : position.PointsBehind source.toList lines before behind)
    (within : Text.WithinFirst bytes behind) :
    (position.advance bytes).Describes source (position.offset + bytes) := by
  have onLine := points.onLine_advance within
  have lineStart : position.lineStart = Text.byteLength lines := by
    rw [points.reached, lineStart_after points.ends points.unbroken]
  have sum : position.offset + bytes = position.lineStart + (position.column + bytes) := by
    rw [← Nat.add_assoc, points.reached, ← offset_eq_after start (lines ++ before) rfl]
  refine ⟨rfl, sum, onLine.notMem_bytes lineStart sum, _, _, _, onLine, lineStart, ?_⟩
  rw [← points.lineText_eq, String.ofList_toList]
  rfl

/-- Every offset up to the end of the text is described by its position. -/
theorem describes_locate {source : String} {offset : Nat} (bound : offset ≤ source.utf8ByteSize) :
    (locate source offset).Describes source offset := by
  have inside : offset ≤ start.offset + Text.byteLength source.toList := by
    rw [← Text.utf8ByteSize_eq]
    exact bound.trans (Nat.le_add_left _ _)
  obtain ⟨front, back, bytes, split, located, sum, within⟩ :=
    exists_front (Nat.zero_le offset : start.offset ≤ offset) inside
  obtain ⟨lines, before, rfl, ends, unbroken⟩ := Text.exists_lines front
  have points : (start.after (lines ++ before)).PointsBehind source.toList lines before back :=
    ⟨by rw [split, List.append_assoc], ends, unbroken, rfl⟩
  have described := points.describes_advance within
  rw [← sum, ← located] at described
  exact described

/-- Offsets are located in the order of line and column, so no two of them have both in common.
Each lies as many bytes behind the start of its line as its column says, with no line break between,
and the text of its line is what stands between the line breaks around it, or the ends of the
source, less one carriage return at its end. An offset past the end is located at the end. -/
theorem locate_lineColumn (source : String) :
    (∀ first second, first < second → second ≤ source.utf8ByteSize →
      ((locate source first).line, (locate source first).column) ≠
          ((locate source second).line, (locate source second).column) ∧
        (locate source first).lineColumn < (locate source second).lineColumn) ∧
    (∀ offset, offset ≤ source.utf8ByteSize → (locate source offset).Describes source offset) ∧
    ∀ offset, source.utf8ByteSize ≤ offset →
      locate source offset = locate source source.utf8ByteSize := by
  refine ⟨?_, fun offset => describes_locate, ?_⟩
  · intro first second later bound
    have increases : (locate source first).lineColumn < (locate source second).lineColumn := by
      apply lineColumn_locateFrom_lt (Nat.zero_le first) later
      rw [← Text.utf8ByteSize_eq]
      exact bound.trans (Nat.le_add_left _ _)
    refine ⟨fun same => ?_, increases⟩
    exact absurd (congrArg toLex same) (ne_of_lt increases)
  · have ended (offset : Nat) (past : source.utf8ByteSize ≤ offset) :
        locate source offset = start.after source.toList := by
      apply locateFrom_past
      rw [← Text.utf8ByteSize_eq]
      exact (Nat.zero_add _).trans_le past
    intro offset past
    rw [ended offset past, ended source.utf8ByteSize (le_refl _)]

/-- Inside a character, between the two characters of a line break, and past the end. -/
theorem locate_lineColumn_crlf :
    (locate "\u00e9\r\nb" 1).lineColumn < (locate "\u00e9\r\nb" 3).lineColumn ∧
      (locate "\u00e9\r\nb" 3).Describes "\u00e9\r\nb" 3 ∧
      (locate "\u00e9\r\nb" 3).lineText "\u00e9\r\nb" = "\u00e9" ∧
      locate "\u00e9\r\nb" 9 = locate "\u00e9\r\nb" 5 := by
  obtain ⟨ordered, described, ended⟩ := locate_lineColumn "\u00e9\r\nb"
  exact ⟨(ordered 1 3 (by decide) (by decide)).2, described 3 (by decide), by decide,
    ended 9 (by decide)⟩

end Position

end Mustache
