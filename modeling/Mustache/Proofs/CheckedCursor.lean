import Mathlib
import Mustache.ByteCursor
import Mustache.Proofs.ByteOffsets

/-!
# Cursors that check their offsets

A byte cursor that only ever moves on, and only to sound offsets, and that cuts texts at sound
offsets only. Where it stands at the place of a character cursor, none of its checks fails, and it
reads what the character cursor reads.
-/

namespace Mustache

set_option autoImplicit false

namespace ByteCursor

/-- The bytes that are still ahead. -/
def ahead (cursor : ByteCursor) : List UInt8 := cursor.text.toUTF8.data.toList.drop cursor.offset

/-- Moves on to an offset; nothing if it lies behind the cursor or is not sound. -/
def moveTo? (cursor : ByteCursor) (offset : Nat) : Option ByteCursor :=
  if cursor.offset ≤ offset ∧ Text.Boundary cursor.text offset then some (cursor.advanceTo offset)
  else none

/-- The offset so many bytes back; nothing if that lies before the text. -/
def back? (cursor : ByteCursor) (count : Nat) : Option Nat :=
  if count ≤ cursor.offset then some (cursor.offset - count) else none

/-- The text ahead. -/
def rest? (cursor : ByteCursor) : Option (List Char) :=
  Text.cut? cursor.text cursor.offset cursor.text.utf8ByteSize

/-- Consumes the bytes up to the first that is not in the class. -/
def takeWhile? (cursor : ByteCursor) (accept : Char → Bool) : Option (List Char × ByteCursor) := do
  let last := cursor.offset + (cursor.ahead.takeWhile (Text.asciiByte accept)).length
  let taken ← Text.cut? cursor.text cursor.offset last
  let next ← cursor.moveTo? last
  return (taken, next)

/-- Consumes the next byte if it is in the class. -/
def takeOne? (cursor : ByteCursor) (accept : Char → Bool) : Option (List Char × ByteCursor) :=
  match cursor.peek? with
  | none => some ([], cursor)
  | some byte =>
    if Text.asciiByte accept byte then do
      let next ← cursor.moveTo? (cursor.offset + 1)
      return ([Char.ofNat byte.toNat], next)
    else some ([], cursor)

/-- Consumes a literal if it is next. -/
def literal? (cursor : ByteCursor) (literal : List Char) : Option (Option ByteCursor) :=
  if literal.isEmpty then some none
  else do
    let rest ← cursor.rest?
    if (Text.stripStart? literal rest).isSome then
      let next ← cursor.moveTo? (cursor.offset + Text.byteLength literal)
      return some next
    else return none

/-- The offset of the next occurrence of a literal. -/
def find? (cursor : ByteCursor) (literal : List Char) : Option (Option Nat) :=
  if literal.isEmpty then some none
  else do
    let rest ← cursor.rest?
    return (Text.splitAt? literal rest).map fun parts => cursor.offset + Text.byteLength parts.1

def takeRest? (cursor : ByteCursor) : Option (List Char × ByteCursor) := do
  let rest ← cursor.rest?
  let next ← cursor.moveTo? cursor.text.utf8ByteSize
  return (rest, next)

def takeLineBreak? (cursor : ByteCursor) : Option ByteCursor := do
  match ← cursor.literal? ['\n'] with
  | some next => return next
  | none =>
    match ← cursor.literal? ['\r', '\n'] with
    | some next => return next
    | none => return cursor

/-- Whether only blanks lie between the cursor and the next line break or the end. -/
def blankToLineEnd? (cursor : ByteCursor) : Option Bool := do
  let rest ← cursor.rest?
  let behind := (Text.bytes rest).dropWhile (Text.asciiByte Text.isBlank)
  return behind.isEmpty || behind.head? == some 10 || behind.take 2 == [13, 10]

/-- Steps back over blanks from the given offset, not further than `first`; nothing if there is no
byte to look at. -/
def backOver? (bytes : List UInt8) (first : Nat) : Nat → Option Nat
  | 0 => some 0
  | last + 1 =>
    if first < last + 1 then do
      let byte ← bytes[last]?
      if Text.asciiByte Text.isBlank byte then backOver? bytes first last else return last + 1
    else some (last + 1)

/-- Whether a line begins at the offset; nothing if there is no byte before it to look at. -/
def beginsLine? (bytes : List UInt8) : Nat → Option Bool
  | 0 => some true
  | last + 1 => bytes[last]?.map (· == 10)

/-- Where the text before the open delimiter at `mark` ends: in front of the blanks before it if a
line begins with them. -/
def textEnd? (cursor : ByteCursor) (mark : Nat) : Option Nat := do
  let bytes := cursor.text.toUTF8.data.toList
  let last ← backOver? bytes cursor.offset mark
  let beginsLine ← beginsLine? bytes last
  return if beginsLine then last else mark

end ByteCursor

/-- What of the text in front of an open delimiter is read before it: the blanks that a line begins
with are left. -/
def Cursor.textBefore (cursor : Cursor) (before : List Char) : List Char :=
  if ((Text.dropBlanksAtEnd before).getLast?.map (· == '\n')).getD cursor.atLineStart
    then Text.dropBlanksAtEnd before else before

theorem Cursor.textBefore_prefix (cursor : Cursor) (before : List Char) :
    cursor.textBefore before <+: before := by
  unfold textBefore
  split
  · exact ⟨_, Text.dropBlanksAtEnd_append before⟩
  · exact List.prefix_rfl

/-- The byte cursor at the place of a character cursor. -/
def Cursor.inBytes (text : String) (cursor : Cursor) : ByteCursor := ⟨text, cursor.position.offset⟩

namespace ByteCursor

variable {text : String} {cursor next : Cursor} {consumed : List Char} {accept : Char → Bool}

theorem exists_front (stands : cursor.StandsIn text.toList) :
    ∃ front, text.toList = front ++ cursor.rest ∧ cursor.position = Position.start.after front ∧
      cursor.position.offset = Text.byteLength front := by
  obtain ⟨front, split, reached⟩ := stands
  refine ⟨front, split, reached, ?_⟩
  rw [reached, Position.offset_after]
  simp [Position.start]

theorem boundary_inBytes (stands : cursor.StandsIn text.toList) :
    Text.Boundary text cursor.position.offset := by
  obtain ⟨front, split, -, offset⟩ := exists_front stands
  exact Text.boundary_iff.2 ⟨front, cursor.rest, split, offset⟩

theorem ahead_inBytes (stands : cursor.StandsIn text.toList) :
    (cursor.inBytes text).ahead = Text.bytes cursor.rest := by
  obtain ⟨front, split, -, offset⟩ := exists_front stands
  unfold ahead Cursor.inBytes
  rw [Text.bytes_toUTF8, split, offset, Text.bytes_append, ← Text.length_bytes, List.drop_left]

theorem peek?_inBytes (stands : cursor.StandsIn text.toList) :
    (cursor.inBytes text).peek? = (Text.bytes cursor.rest).head? := by
  rw [← ahead_inBytes stands, ahead, List.head?_drop]
  simp [peek?]

theorem rest?_inBytes (stands : cursor.StandsIn text.toList) :
    (cursor.inBytes text).rest? = some cursor.rest := by
  obtain ⟨front, split, -, offset⟩ := exists_front stands
  unfold rest? Cursor.inBytes
  rw [offset]
  exact Text.cut?_end split

theorem offset_passes (passes : cursor.Passes consumed next) :
    next.position.offset = cursor.position.offset + Text.byteLength consumed := by
  rw [passes.2, Position.offset_after]

/-- What a character cursor passes over can be cut out between the two places. -/
theorem cut?_passes (stands : cursor.StandsIn text.toList) (passes : cursor.Passes consumed next) :
    Text.cut? text cursor.position.offset next.position.offset = some consumed := by
  obtain ⟨front, split, -, offset⟩ := exists_front stands
  rw [offset_passes passes, offset, ← Text.byteLength_append]
  apply Text.cut?_eq
  rw [split, passes.1, List.append_assoc]

theorem moveTo?_passes (stands : cursor.StandsIn text.toList)
    (passes : cursor.Passes consumed next) :
    (cursor.inBytes text).moveTo? next.position.offset = some (next.inBytes text) := by
  have onwards : (cursor.inBytes text).offset ≤ next.position.offset := by
    rw [offset_passes passes]
    exact Nat.le_add_right _ _
  exact if_pos ⟨onwards, boundary_inBytes (stands.passes passes)⟩

variable {content : List Char}

theorem take_prefix (begins : content <+: cursor.rest) : (cursor.take content.length).1 = content :=
  (List.prefix_iff_eq_take.1 begins).symm

/-- A beginning of the text ahead can be cut out, and the cursor can move behind it. -/
theorem cut?_prefix (stands : cursor.StandsIn text.toList) (begins : content <+: cursor.rest) :
    Text.cut? text cursor.position.offset (cursor.position.offset + Text.byteLength content) =
      some content := by
  have cut := cut?_passes stands (cursor.passes_take content.length)
  rwa [offset_passes (cursor.passes_take content.length), take_prefix begins] at cut

theorem moveTo?_prefix (stands : cursor.StandsIn text.toList) (begins : content <+: cursor.rest) :
    (cursor.inBytes text).moveTo? (cursor.position.offset + Text.byteLength content) =
      some ((cursor.take content.length).2.inBytes text) := by
  have moved := moveTo?_passes stands (cursor.passes_take content.length)
  rwa [offset_passes (cursor.passes_take content.length), take_prefix begins] at moved

theorem back?_passes (passes : cursor.Passes consumed next) :
    (next.inBytes text).back? (Text.byteLength consumed) = some cursor.position.offset := by
  have moved : (next.inBytes text).offset = cursor.position.offset + Text.byteLength consumed :=
    offset_passes passes
  rw [back?, moved, if_pos (Nat.le_add_left _ _), Nat.add_sub_cancel_right]

theorem ofOffset?_inBytes (stands : cursor.StandsIn text.toList) :
    Position.ofOffset? text cursor.position.offset = some cursor.position := by
  obtain ⟨front, split, reached, offset⟩ := exists_front stands
  rw [offset, Position.ofOffset?_eq split, reached]

theorem takeWhile?_inBytes (ascii : Text.AsciiOnly accept) (stands : cursor.StandsIn text.toList) :
    (cursor.inBytes text).takeWhile? accept =
      some ((cursor.takeWhile accept).1, (cursor.takeWhile accept).2.inBytes text) := by
  have passes := cursor.passes_takeWhile accept
  have last : (cursor.inBytes text).offset +
      ((cursor.inBytes text).ahead.takeWhile (Text.asciiByte accept)).length =
        (cursor.takeWhile accept).2.position.offset := by
    rw [ahead_inBytes stands, Text.takeWhile_bytes ascii, Text.length_bytes, offset_passes passes]
    rfl
  unfold takeWhile?
  dsimp only
  rw [last, moveTo?_passes stands passes]
  have taken : Text.cut? (cursor.inBytes text).text (cursor.inBytes text).offset
      (cursor.takeWhile accept).2.position.offset = some (cursor.takeWhile accept).1 :=
    cut?_passes stands passes
  rw [taken]
  rfl

theorem takeOne?_inBytes (ascii : Text.AsciiOnly accept) (stands : cursor.StandsIn text.toList) :
    (cursor.inBytes text).takeOne? accept =
      some ((cursor.takeOne accept).1, (cursor.takeOne accept).2.inBytes text) := by
  have passes := cursor.passes_takeOne accept
  unfold takeOne?
  rw [peek?_inBytes stands]
  cases ahead : cursor.rest with
  | nil => simp [Cursor.takeOne, ahead]
  | cons character rest =>
    obtain ⟨byte, others, encoded⟩ :=
      List.exists_cons_of_ne_nil (Text.utf8EncodeChar_ne_nil character)
    have same : Text.asciiByte accept byte = accept character :=
      ascii.asciiByte_eq (by simp [encoded])
    rw [Text.bytes_cons, encoded, List.cons_append, List.head?_cons]
    dsimp only
    rw [same]
    cases accepted : accept character with
    | false => simp [Cursor.takeOne, ahead, accepted]
    | true =>
      have small := ascii character accepted
      rw [Text.utf8EncodeChar_of_ascii small, List.cons.injEq] at encoded
      have taken : cursor.takeOne accept = ([character], cursor.pass [character] rest) := by
        simp [Cursor.takeOne, ahead, accepted]
      have next : (cursor.inBytes text).offset + 1 =
          (cursor.pass [character] rest).position.offset := by
        have width : character.utf8Size = 1 := by
          rw [← String.length_utf8EncodeChar, Text.utf8EncodeChar_of_ascii small]
          rfl
        rw [taken] at passes
        rw [offset_passes passes, Text.byteLength_cons, width]
        rfl
      rw [taken] at passes ⊢
      rw [if_pos rfl, next, moveTo?_passes stands passes, ← encoded.1,
        UInt8.toNat_ofNat_of_lt' (Nat.lt_trans small (by decide)), Char.ofNat_toNat]
      rfl

theorem literal?_inBytes (stands : cursor.StandsIn text.toList) (literal : List Char) :
    (cursor.inBytes text).literal? literal =
      some ((cursor.literal? literal).map (Cursor.inBytes text)) := by
  unfold literal?
  cases found : cursor.literal? literal with
  | none =>
    unfold Cursor.literal? at found
    split at found
    · rename_i empty
      rw [if_pos empty]
      rfl
    · rename_i filled
      rw [Option.map_eq_none_iff] at found
      rw [if_neg filled, rest?_inBytes stands]
      dsimp only [Bind.bind, Option.bind]
      rw [found]
      rfl
  | some next =>
    have passes := (cursor.passes_literal? next literal found).1
    have moved : (cursor.inBytes text).offset + Text.byteLength literal = next.position.offset :=
      (offset_passes passes).symm
    unfold Cursor.literal? at found
    split at found
    · cases found
    · rename_i filled
      obtain ⟨rest, stripped, -⟩ := Option.map_eq_some_iff.1 found
      rw [if_neg filled, rest?_inBytes stands]
      dsimp only [Bind.bind, Option.bind]
      rw [stripped, moved, moveTo?_passes stands passes]
      rfl

/-- A literal is found where the character cursor would stop in front of it. -/
theorem find?_inBytes (stands : cursor.StandsIn text.toList) (literal : List Char) :
    (cursor.inBytes text).find? literal =
      some ((cursor.until? literal).map fun found => found.2.position.offset) := by
  unfold find? Cursor.until?
  cases literal with
  | nil => rfl
  | cons first others =>
    rw [if_neg (by simp), rest?_inBytes stands]
    dsimp only [Bind.bind, Option.bind]
    cases Text.splitAt? (first :: others) cursor.rest with
    | none => rfl
    | some parts =>
      have moved := Position.offset_after cursor.position parts.1
      exact congrArg (fun offset => some (some offset)) moved.symm

theorem takeRest?_inBytes (stands : cursor.StandsIn text.toList) :
    (cursor.inBytes text).takeRest? =
      some (cursor.takeRest.1, cursor.takeRest.2.inBytes text) := by
  have passes : cursor.Passes cursor.rest cursor.takeRest.2 := ⟨(List.append_nil _).symm, rfl⟩
  obtain ⟨front, split, -, offset⟩ := exists_front stands
  have size : text.utf8ByteSize = cursor.takeRest.2.position.offset := by
    rw [Text.utf8ByteSize_eq, split, Text.byteLength_append, offset_passes passes, offset]
  unfold takeRest?
  rw [rest?_inBytes stands]
  dsimp only [Bind.bind, Option.bind]
  have moved : (cursor.inBytes text).moveTo? (cursor.inBytes text).text.utf8ByteSize =
      some (cursor.takeRest.2.inBytes text) := by
    change (cursor.inBytes text).moveTo? text.utf8ByteSize = _
    rw [size]
    exact moveTo?_passes stands passes
  rw [moved]
  rfl

theorem takeLineBreak?_inBytes (stands : cursor.StandsIn text.toList) :
    (cursor.inBytes text).takeLineBreak? = some (cursor.takeLineBreak.2.inBytes text) := by
  have literal (breaks : List Char) (filled : breaks.isEmpty = false) :
      (cursor.inBytes text).literal? breaks =
        some (((Text.stripStart? breaks cursor.rest).map (cursor.pass breaks)).map
          (Cursor.inBytes text)) := by
    rw [literal?_inBytes stands, Cursor.literal?, filled]
    rfl
  unfold takeLineBreak?
  rw [literal ['\n'] rfl, literal ['\r', '\n'] rfl, Cursor.takeLineBreak]
  split
  · rename_i rest ahead
    rw [ahead]
    rfl
  · rename_i rest ahead
    rw [ahead]
    rfl
  · rename_i notFeed notBoth
    have feed : Text.stripStart? ['\n'] cursor.rest = none := by
      rw [Option.eq_none_iff_forall_ne_some]
      intro rest found
      exact notFeed rest ((Text.stripStart?_eq_some_iff _ _ _).1 found)
    have both : Text.stripStart? ['\r', '\n'] cursor.rest = none := by
      rw [Option.eq_none_iff_forall_ne_some]
      intro rest found
      exact notBoth rest ((Text.stripStart?_eq_some_iff _ _ _).1 found)
    rw [feed, both]
    rfl

theorem asciiOnly_isBlank : Text.AsciiOnly Text.isBlank := by
  intro character blank
  simp only [Text.isBlank, Bool.or_eq_true, beq_iff_eq] at blank
  rcases blank with rfl | rfl <;> decide

/-- Whether a text begins with a line break shows in its first two bytes. -/
theorem startsWithBreak_bytes (rest : List Char) :
    ((Text.bytes rest).isEmpty || (Text.bytes rest).head? == some 10 ||
      (Text.bytes rest).take 2 == [13, 10]) =
      match rest with
      | [] => true
      | '\n' :: _ => true
      | '\r' :: '\n' :: _ => true
      | _ => false := by
  have first (character : Char) : ∃ byte others, String.utf8EncodeChar character = byte :: others ∧
      (byte == 10) = (character == '\n') ∧ (byte == 13) = (character == '\r') := by
    obtain ⟨byte, others, encoded⟩ :=
      List.exists_cons_of_ne_nil (Text.utf8EncodeChar_ne_nil character)
    have inside : byte ∈ String.utf8EncodeChar character := by simp [encoded]
    refine ⟨byte, others, encoded, Text.beq_newline inside, ?_⟩
    have ascii : '\r'.toNat < 128 := by decide
    rw [← (Text.asciiOnly_beq ascii).asciiByte_eq inside]
    exact (Text.asciiByte_beq ascii byte).symm
  split
  · rfl
  · rfl
  · rfl
  · rename_i filled notFeed notBoth
    obtain ⟨character, others, rfl⟩ := List.exists_cons_of_ne_nil filled
    obtain ⟨byte, more, encoded, feed, carriage⟩ := first character
    have other : (character == '\n') = false := by
      rw [beq_eq_false_iff_ne]
      rintro rfl
      exact notFeed others rfl
    rw [other, beq_eq_false_iff_ne] at feed
    rw [Text.bytes_cons, encoded]
    by_cases isReturn : character = '\r'
    · subst isReturn
      cases encoded
      cases others with
      | nil => rfl
      | cons second behind =>
        obtain ⟨next, rest, encoded, feedNext, -⟩ := first second
        have otherNext : (second == '\n') = false := by
          rw [beq_eq_false_iff_ne]
          rintro rfl
          exact notBoth behind rfl
        rw [otherNext, beq_eq_false_iff_ne] at feedNext
        rw [Text.bytes_cons, encoded]
        simp [feedNext]
    · rw [beq_eq_false_iff_ne.2 isReturn, beq_eq_false_iff_ne] at carriage
      simp [feed, carriage]

theorem blankToLineEnd?_inBytes (stands : cursor.StandsIn text.toList) :
    (cursor.inBytes text).blankToLineEnd? = some cursor.blankToLineEnd := by
  unfold blankToLineEnd? Cursor.blankToLineEnd
  rw [rest?_inBytes stands]
  dsimp only [Bind.bind, Option.bind]
  rw [Text.dropWhile_bytes asciiOnly_isBlank, startsWithBreak_bytes]
  rfl

/-- Bytes that are walked back over are those at the end that are blanks. -/
theorem backOver?_append (front walked behind : List UInt8) :
    backOver? (front ++ walked ++ behind) front.length (front.length + walked.length) =
      some (front.length + (walked.reverse.dropWhile (Text.asciiByte Text.isBlank)).length) := by
  induction walked using List.reverseRecOn generalizing behind with
  | nil =>
    cases size : front.length with
    | zero => simp [backOver?]
    | succ before => simp [backOver?]
  | append_singleton walked byte ih =>
    have here : (front ++ (walked ++ [byte]) ++ behind)[front.length + walked.length]? =
        some byte := by
      simp
    have further : front.length < front.length + walked.length + 1 := by omega
    rw [List.length_append, List.length_singleton, ← Nat.add_assoc, backOver?, if_pos further, here]
    dsimp only [Bind.bind, Option.bind]
    rw [List.reverse_append, List.reverse_singleton, List.singleton_append, List.dropWhile_cons]
    cases blank : Text.asciiByte Text.isBlank byte with
    | true =>
      have same : front ++ (walked ++ [byte]) ++ behind = front ++ walked ++ (byte :: behind) := by
        simp
      rw [if_pos rfl, if_pos rfl, same, ih]
    | false => simp [Nat.add_assoc]

/-- The walk back over blanks ends where the blanks at the end of a text begin. -/
theorem backOver?_eq (front text behind : List Char) :
    backOver? (Text.bytes (front ++ text ++ behind)) (Text.byteLength front)
        (Text.byteLength (front ++ text)) =
      some (Text.byteLength (front ++ Text.dropBlanksAtEnd text)) := by
  have walked := backOver?_append (Text.bytes front) (Text.bytes text) (Text.bytes behind)
  rw [Text.dropWhile_reverse_bytes asciiOnly_isBlank, List.length_reverse] at walked
  simp only [Text.length_bytes] at walked
  rw [Text.bytes_append, Text.bytes_append, Text.byteLength_append, walked, Text.byteLength_append]
  rfl

/-- A line begins at an offset if the text before it ends a line. -/
theorem beginsLine?_eq (front behind : List Char) :
    beginsLine? (Text.bytes (front ++ behind)) (Text.byteLength front) =
      some ((Position.start.after front).column == 0) := by
  rcases List.eq_nil_or_concat front with rfl | ⟨text, character, rfl⟩
  · rfl
  · rw [List.concat_eq_append]
    obtain ⟨others, byte, encoded⟩ : ∃ others byte,
        String.utf8EncodeChar character = others ++ [byte] := by
      rcases List.eq_nil_or_concat (String.utf8EncodeChar character) with
        empty | ⟨others, byte, same⟩
      · exact absurd empty (Text.utf8EncodeChar_ne_nil character)
      · exact ⟨others, byte, by rw [same, List.concat_eq_append]⟩
    have width : Text.byteLength (text ++ [character]) =
        (Text.bytes text).length + others.length + 1 := by
      rw [← Text.length_bytes, Text.bytes_append, Text.bytes_cons, encoded]
      simp [Nat.add_assoc]
    have last : (Text.bytes (text ++ [character] ++ behind))[(Text.bytes text).length +
        others.length]? = some byte := by
      rw [Text.bytes_append, Text.bytes_append, Text.bytes_cons, encoded]
      simp
    have broken : (byte == 10) = ((Position.start.after (text ++ [character])).column == 0) := by
      have inside : byte ∈ String.utf8EncodeChar character := by simp [encoded]
      rw [Text.beq_newline inside, Bool.eq_iff_iff, beq_iff_eq, beq_iff_eq,
        Position.column_after_start, Text.EndsLine]
      simp
    rw [width, beginsLine?, last, Option.map_some, broken]

theorem beginsLine?_inBytes (stands : cursor.StandsIn text.toList) :
    beginsLine? text.toUTF8.data.toList cursor.position.offset = some cursor.atLineStart := by
  obtain ⟨front, split, reached, offset⟩ := exists_front stands
  rw [offset, Text.bytes_toUTF8, split, beginsLine?_eq, Cursor.atLineStart, reached]

theorem atLineStart_inBytes (stands : cursor.StandsIn text.toList) :
    (cursor.inBytes text).atLineStart = cursor.atLineStart := by
  have begins := beginsLine?_inBytes stands
  unfold atLineStart
  change (cursor.position.offset == 0 ||
    text.toUTF8.data[cursor.position.offset - 1]? == some 10) = _
  cases offset : cursor.position.offset with
  | zero =>
    rw [offset] at begins
    exact Option.some.inj begins
  | succ last =>
    rw [offset] at begins
    obtain ⟨byte, here, same⟩ := Option.map_eq_some_iff.1 begins
    rw [Array.getElem?_toList] at here
    rw [Nat.add_sub_cancel, here, ← same]
    simp

/-- Behind more text, a line begins if that text ends one or, when it is empty, if one began
before. -/
theorem column_after_append (front text : List Char) :
    ((Position.start.after (front ++ text)).column == 0) =
      (text.getLast?.map (· == '\n')).getD ((Position.start.after front).column == 0) := by
  rcases List.eq_nil_or_concat text with rfl | ⟨kept, last, rfl⟩
  · rw [List.append_nil]
    rfl
  · rw [List.concat_eq_append, ← List.append_assoc, Bool.eq_iff_iff, beq_iff_eq,
      Position.column_after_start, Text.EndsLine]
    simp

/-- Where a text in front of an open delimiter ends. -/
theorem textEnd?_inBytes (stands : cursor.StandsIn text.toList) {before : List Char}
    (passes : cursor.Passes before next) :
    (cursor.inBytes text).textEnd? next.position.offset =
      some (cursor.position.offset + Text.byteLength (cursor.textBefore before)) := by
  obtain ⟨front, split, reached, offset⟩ := exists_front stands
  have kept := Text.dropBlanksAtEnd_append before
  have whole : (cursor.inBytes text).text.toUTF8.data.toList =
      Text.bytes (front ++ before ++ next.rest) := by
    change text.toUTF8.data.toList = _
    rw [Text.bytes_toUTF8, split, passes.1, List.append_assoc]
  have parts : front ++ before ++ next.rest = front ++ Text.dropBlanksAtEnd before ++
      (Text.blanksAtEnd before ++ next.rest) := by
    conv_lhs => rw [← kept]
    simp
  have walked : backOver? (Text.bytes (front ++ before ++ next.rest)) (cursor.inBytes text).offset
      next.position.offset = some (Text.byteLength (front ++ Text.dropBlanksAtEnd before)) := by
    rw [offset_passes passes, offset, ← Text.byteLength_append]
    change backOver? _ cursor.position.offset _ = _
    rw [offset, backOver?_eq]
  have begins : beginsLine? (Text.bytes (front ++ before ++ next.rest))
      (Text.byteLength (front ++ Text.dropBlanksAtEnd before)) =
        some (((Text.dropBlanksAtEnd before).getLast?.map (· == '\n')).getD
          cursor.atLineStart) := by
    rw [parts, beginsLine?_eq, column_after_append, Cursor.atLineStart, reached]
  unfold textEnd?
  dsimp only [Bind.bind, Option.bind]
  rw [whole, walked]
  dsimp only
  rw [begins, offset_passes passes, offset, Text.byteLength_append]
  dsimp only [Cursor.textBefore]
  split <;> rfl

end ByteCursor

end Mustache
