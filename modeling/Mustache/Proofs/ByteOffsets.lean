import Mathlib
import Mustache.ByteCursor
import Mustache.Proofs.FailurePositions

/-!
# Texts as bytes

A text is kept as the UTF-8 bytes of its characters. An offset in it is sound if it lies between
two characters, and a cut is made at sound offsets only, so that it is a text again. A character
outside ASCII has no byte that an ASCII character could be, so a run of bytes of some ASCII class is
a run of characters of that class, from whichever end it is read.
-/

namespace Mustache

set_option autoImplicit false

namespace Text

/-- The bytes of a text in UTF-8. -/
def bytes (text : List Char) : List UInt8 := text.flatMap String.utf8EncodeChar

@[simp]
theorem bytes_nil : bytes [] = [] := rfl

@[simp]
theorem bytes_cons (character : Char) (rest : List Char) :
    bytes (character :: rest) = String.utf8EncodeChar character ++ bytes rest := rfl

@[simp]
theorem bytes_append (first second : List Char) :
    bytes (first ++ second) = bytes first ++ bytes second := List.flatMap_append

@[simp]
theorem length_bytes (text : List Char) : (bytes text).length = byteLength text := by
  induction text with
  | nil => rfl
  | cons character rest ih => simp [ih]

theorem bytes_toUTF8 (text : String) : text.toUTF8.data.toList = bytes text.toList := by
  have encoded : text.toList.utf8Encode = text.toUTF8 := String.utf8Encode_toList
  rw [← encoded]
  simp [List.utf8Encode, bytes]

theorem utf8ByteSize_eq (text : String) : text.utf8ByteSize = byteLength text.toList := by
  rw [← length_bytes, ← bytes_toUTF8]
  simp

/-- The byte is a character of ASCII that belongs to the class. -/
def asciiByte (accept : Char → Bool) (byte : UInt8) : Bool :=
  byte < 128 && accept (Char.ofNat byte.toNat)

/-- All characters of the class are in ASCII. -/
def AsciiOnly (accept : Char → Bool) : Prop :=
  ∀ character, accept character = true → character.toNat < 128

theorem utf8EncodeChar_ne_nil (character : Char) : String.utf8EncodeChar character ≠ [] := by
  intro empty
  have positive := character.utf8Size_pos
  rw [← String.length_utf8EncodeChar, empty] at positive
  exact absurd positive (by decide)

theorem utf8EncodeChar_of_ascii {character : Char} (ascii : character.toNat < 128) :
    String.utf8EncodeChar character = [.ofNat character.toNat] := by
  have small : character.val.toNat ≤ 0x7f := Nat.le_of_lt_succ ascii
  rw [String.utf8EncodeChar, if_pos small, Char.toNat_val]

/-- A character outside ASCII has no byte of ASCII. -/
theorem not_lt_of_mem_utf8EncodeChar {character : Char} (wide : ¬ character.toNat < 128)
    {byte : UInt8} (inside : byte ∈ String.utf8EncodeChar character) : ¬ byte < 128 := by
  have large : ¬ character.val.toNat ≤ 0x7f := fun small => wide (Nat.lt_succ_of_le small)
  have bound (value : Nat) (low : 128 ≤ value) (high : value < 256) :
      ¬ UInt8.ofNat value < 128 := by
    rw [UInt8.lt_iff_toNat_lt, UInt8.toNat_ofNat_of_lt' high]
    simpa using low
  simp only [String.utf8EncodeChar, large, if_false] at inside
  split at inside
  · simp only [List.mem_cons, List.not_mem_nil, or_false] at inside
    rcases inside with rfl | rfl <;> apply bound <;> omega
  · split at inside
    · simp only [List.mem_cons, List.not_mem_nil, or_false] at inside
      rcases inside with rfl | rfl | rfl <;> apply bound <;> omega
    · simp only [List.mem_cons, List.not_mem_nil, or_false] at inside
      rcases inside with rfl | rfl | rfl | rfl <;> apply bound <;> omega

/-- A class within ASCII can be told from any byte of a character. -/
theorem AsciiOnly.asciiByte_eq {accept : Char → Bool} (ascii : AsciiOnly accept) {character : Char}
    {byte : UInt8} (inside : byte ∈ String.utf8EncodeChar character) :
    asciiByte accept byte = accept character := by
  unfold asciiByte
  by_cases small : character.toNat < 128
  · rw [utf8EncodeChar_of_ascii small, List.mem_singleton] at inside
    subst inside
    have value : (UInt8.ofNat character.toNat).toNat = character.toNat :=
      UInt8.toNat_ofNat_of_lt' (Nat.lt_trans small (by decide))
    have low : UInt8.ofNat character.toNat < 128 := by
      rw [UInt8.lt_iff_toNat_lt, value]
      exact small
    rw [value, Char.ofNat_toNat, decide_eq_true low, Bool.true_and]
  · have refused : accept character = false := by
      by_contra accepted
      exact small (ascii character (by simpa using accepted))
    simp [not_lt_of_mem_utf8EncodeChar small inside, refused]

theorem takeWhile_flatMap {encode : Char → List UInt8} (filled : ∀ character, encode character ≠ [])
    {accept : Char → Bool} {reads : UInt8 → Bool}
    (same : ∀ character, ∀ byte ∈ encode character, reads byte = accept character)
    (text : List Char) :
    (text.flatMap encode).takeWhile reads = (text.takeWhile accept).flatMap encode := by
  induction text with
  | nil => rfl
  | cons character rest ih =>
    rw [List.flatMap_cons, List.takeWhile_cons]
    cases accepted : accept character with
    | true =>
      have all : ∀ byte ∈ encode character, reads byte = true :=
        fun byte inside => (same character byte inside).trans accepted
      rw [List.takeWhile_append_of_pos all, ih]
      simp
    | false =>
      obtain ⟨first, others, known⟩ := List.exists_cons_of_ne_nil (filled character)
      have refused := same character first (by simp [known])
      simp [known, refused, accepted]

theorem dropWhile_flatMap {encode : Char → List UInt8} (filled : ∀ character, encode character ≠ [])
    {accept : Char → Bool} {reads : UInt8 → Bool}
    (same : ∀ character, ∀ byte ∈ encode character, reads byte = accept character)
    (text : List Char) :
    (text.flatMap encode).dropWhile reads = (text.dropWhile accept).flatMap encode := by
  have whole : (text.flatMap encode).takeWhile reads ++ (text.flatMap encode).dropWhile reads =
      (text.flatMap encode).takeWhile reads ++ (text.dropWhile accept).flatMap encode := by
    rw [List.takeWhile_append_dropWhile, takeWhile_flatMap filled same, ← List.flatMap_append,
      List.takeWhile_append_dropWhile]
  exact List.append_cancel_left whole

variable {accept : Char → Bool}

theorem takeWhile_bytes (ascii : AsciiOnly accept) (text : List Char) :
    (bytes text).takeWhile (asciiByte accept) = bytes (text.takeWhile accept) :=
  takeWhile_flatMap utf8EncodeChar_ne_nil (fun _ _ => ascii.asciiByte_eq) text

theorem dropWhile_bytes (ascii : AsciiOnly accept) (text : List Char) :
    (bytes text).dropWhile (asciiByte accept) = bytes (text.dropWhile accept) :=
  dropWhile_flatMap utf8EncodeChar_ne_nil (fun _ _ => ascii.asciiByte_eq) text

/-- Read from its end, a text is the bytes of its characters read from theirs. -/
theorem dropWhile_reverse_bytes (ascii : AsciiOnly accept) (text : List Char) :
    (bytes text).reverse.dropWhile (asciiByte accept) =
      (bytes (text.reverse.dropWhile accept).reverse).reverse := by
  unfold bytes
  rw [List.reverse_flatMap, List.reverse_flatMap, List.reverse_reverse]
  apply dropWhile_flatMap
  · intro character empty
    exact utf8EncodeChar_ne_nil character (List.reverse_eq_nil_iff.1 empty)
  · intro character byte inside
    exact ascii.asciiByte_eq (List.mem_reverse.1 inside)

/-- An ASCII character can be told by its code. -/
theorem asciiByte_beq {character : Char} (ascii : character.toNat < 128) (byte : UInt8) :
    asciiByte (· == character) byte = (byte == .ofNat character.toNat) := by
  have value : (UInt8.ofNat character.toNat).toNat = character.toNat :=
    UInt8.toNat_ofNat_of_lt' (Nat.lt_trans ascii (by decide))
  unfold asciiByte
  rw [Bool.eq_iff_iff, Bool.and_eq_true, decide_eq_true_iff, beq_iff_eq, beq_iff_eq]
  constructor
  · rintro ⟨-, same⟩
    have valid : byte.toNat.isValidChar := .inl (Nat.lt_trans byte.toNat_lt (by decide))
    rw [← UInt8.toNat_inj, value, ← same, Char.toNat_ofNat, if_pos valid]
  · intro same
    subst same
    refine ⟨?_, by rw [value, Char.ofNat_toNat]⟩
    rw [UInt8.lt_iff_toNat_lt, value]
    exact ascii

theorem asciiOnly_beq {character : Char} (ascii : character.toNat < 128) :
    AsciiOnly (· == character) := by
  intro other same
  rwa [beq_iff_eq.1 same]

/-- The bytes of a line break are found where the line breaks are. -/
theorem beq_newline {character : Char} {byte : UInt8}
    (inside : byte ∈ String.utf8EncodeChar character) : (byte == 10) = (character == '\n') := by
  have ascii : '\n'.toNat < 128 := by decide
  rw [← (asciiOnly_beq ascii).asciiByte_eq inside]
  exact (asciiByte_beq ascii byte).symm

theorem count_bytes (text : List Char) : (bytes text).count 10 = text.count '\n' := by
  induction text with
  | nil => rfl
  | cons character rest ih =>
    rw [bytes_cons, List.count_append, ih, List.count_cons, Nat.add_comm]
    congr 1
    by_cases newline : character = '\n'
    · subst newline
      rfl
    · have other : ∀ byte ∈ String.utf8EncodeChar character, ¬ (10 : UInt8) = byte := by
        intro byte inside same
        subst same
        have broken := beq_newline inside
        simp [newline] at broken
      rw [List.count_eq_zero.2 fun inside => other 10 inside rfl]
      simp [newline]

/-- Without a line break in it, a text has no byte of one. -/
theorem not_mem_bytes {text : List Char} (unbroken : '\n' ∉ text) :
    ∀ byte ∈ bytes text, (byte != 10) = true := by
  intro byte inside
  obtain ⟨character, among, encoded⟩ := List.mem_flatMap.1 inside
  have other : character ≠ '\n' := fun newline => unbroken (newline ▸ among)
  rw [bne, beq_newline encoded]
  simpa using other

/-- What is left of whole lines when the bytes behind their last line break go. -/
theorem length_lines_bytes {lines current : List Char} (ends : EndsLine lines)
    (unbroken : '\n' ∉ current) :
    ((bytes (lines ++ current)).reverse.dropWhile (· != 10)).length = byteLength lines := by
  rw [bytes_append, List.reverse_append, List.dropWhile_append_of_pos]
  · rcases ends with rfl | ends
    · rfl
    · obtain ⟨front, rfl⟩ := List.getLast?_eq_some_iff.1 ends
      rw [bytes_append, List.reverse_append, ← length_bytes, bytes_append, List.length_append]
      have newline : bytes ['\n'] = [10] := by decide
      rw [newline]
      simp
  · intro byte inside
    exact not_mem_bytes unbroken byte (List.mem_reverse.1 inside)

/-- The offset lies between two characters of the text or at one of its ends. -/
def Boundary (text : String) (offset : Nat) : Prop := (String.Pos.Raw.mk offset).IsValid text

instance (text : String) (offset : Nat) : Decidable (Boundary text offset) :=
  inferInstanceAs (Decidable ((String.Pos.Raw.mk offset).IsValid text))

theorem boundary_iff {text : String} {offset : Nat} : Boundary text offset ↔
    ∃ front back, text.toList = front ++ back ∧ offset = byteLength front := by
  unfold Boundary
  rw [String.Pos.Raw.isValid_iff_exists_append]
  constructor
  · rintro ⟨front, back, rfl, same⟩
    refine ⟨front.toList, back.toList, String.toList_append, ?_⟩
    rw [← utf8ByteSize_eq]
    exact congrArg String.Pos.Raw.byteIdx same
  · rintro ⟨front, back, split, rfl⟩
    refine ⟨String.ofList front, String.ofList back, ?_, ?_⟩
    · rw [← String.ofList_append, ← split, String.ofList_toList]
    · apply String.Pos.Raw.ext
      have size := utf8ByteSize_eq (String.ofList front)
      rw [String.toList_ofList] at size
      exact size.symm

theorem takeBytes_byteLength (first second : List Char) :
    takeBytes (byteLength first) (first ++ second) = first := by
  induction first with
  | nil =>
    cases second with
    | nil => rfl
    | cons character rest =>
      have positive := character.utf8Size_pos
      simp [takeBytes, Nat.ne_of_gt positive]
  | cons character rest ih => simp [takeBytes, ih]

/-- The text between two offsets; nothing if they are out of order or one of them is not sound. -/
def cut? (text : String) (first last : Nat) : Option (List Char) :=
  if first ≤ last ∧ Boundary text first ∧ Boundary text last then
    some ((ByteCursor.ofText text).slice first last)
  else none

theorem cut?_eq {text : String} {front middle back : List Char}
    (split : text.toList = front ++ middle ++ back) :
    cut? text (byteLength front) (byteLength (front ++ middle)) = some middle := by
  have begins : Boundary text (byteLength front) :=
    boundary_iff.2 ⟨front, middle ++ back, by rw [split, List.append_assoc], rfl⟩
  have ends : Boundary text (byteLength (front ++ middle)) :=
    boundary_iff.2 ⟨front ++ middle, back, split, rfl⟩
  have ordered : byteLength front ≤ byteLength (front ++ middle) := by simp
  rw [cut?, if_pos ⟨ordered, begins, ends⟩, ByteCursor.slice, ByteCursor.ofText, split,
    List.append_assoc, dropBytes_byteLength, byteLength_append, Nat.add_sub_cancel_left,
    takeBytes_byteLength]

/-- A cut to the end of the text. -/
theorem cut?_end {text : String} {front rest : List Char} (split : text.toList = front ++ rest) :
    cut? text (byteLength front) text.utf8ByteSize = some rest := by
  have whole : text.toList = front ++ rest ++ [] := by rw [split, List.append_nil]
  rw [utf8ByteSize_eq, split, cut?_eq whole]

end Text

namespace Position

/-- The position of an offset, counted on the bytes before it; nothing if the offset or the start
of its line is not sound. -/
def ofOffset? (text : String) (offset : Nat) : Option Position :=
  let passed := text.toUTF8.data.toList.take offset
  let lineStart := (passed.reverse.dropWhile (· != 10)).length
  if Text.Boundary text offset ∧ Text.Boundary text lineStart ∧ lineStart ≤ offset then
    some ⟨offset, lineStart, passed.count 10, offset - lineStart⟩
  else none

/-- The text of the line that the position lies on, cut out of the text without its line break. -/
def lineCut? (position : Position) (text : String) : Option String := do
  let rest ← Text.cut? text position.lineStart text.utf8ByteSize
  let line ← Text.cut? (String.ofList rest) 0 (Text.byteLength (rest.takeWhile (· != '\n')))
  return String.ofList (if line.getLast? = some '\r' then line.dropLast else line)

variable {text : String}

theorem ofOffset?_eq {front back : List Char} (split : text.toList = front ++ back) :
    ofOffset? text (Text.byteLength front) = some (start.after front) := by
  obtain ⟨lines, current, rfl, ends, unbroken⟩ := Text.exists_lines front
  have passed : text.toUTF8.data.toList.take (Text.byteLength (lines ++ current)) =
      Text.bytes (lines ++ current) := by
    rw [Text.bytes_toUTF8, split, Text.bytes_append, ← Text.length_bytes, List.take_left]
  have offset := offset_after start (lines ++ current)
  have lineStart := lineStart_after ends unbroken
  have line := line_after start (lines ++ current)
  have column := offset_eq_after start (lines ++ current) rfl
  have sound : Text.Boundary text (Text.byteLength (lines ++ current)) :=
    Text.boundary_iff.2 ⟨_, back, split, rfl⟩
  have lineSound : Text.Boundary text (Text.byteLength lines) :=
    Text.boundary_iff.2 ⟨lines, current ++ back, by rw [split, List.append_assoc], rfl⟩
  have ordered : Text.byteLength lines ≤ Text.byteLength (lines ++ current) := by simp
  unfold ofOffset?
  dsimp only
  rw [passed, Text.length_lines_bytes ends unbroken, Text.count_bytes,
    if_pos ⟨sound, lineSound, ordered⟩]
  cases reached : start.after (lines ++ current) with
  | mk o s l c =>
    rw [reached] at offset lineStart line column
    simp only [start, Nat.zero_add, Option.some.injEq, Position.mk.injEq] at *
    omega

theorem locateFrom_append (position : Position) (front back : List Char) :
    locateFrom position (position.offset + Text.byteLength front) (front ++ back) =
      position.after front := by
  induction front generalizing position with
  | nil =>
    cases back with
    | nil => rfl
    | cons character rest =>
      have positive := character.utf8Size_pos
      simp [locateFrom, Nat.ne_of_gt positive]
  | cons character rest ih =>
    have reached : position.offset + character.utf8Size ≤
        position.offset + Text.byteLength (character :: rest) := by
      simp
    have moved : position.offset + Text.byteLength (character :: rest) =
        (position.next character).offset + Text.byteLength rest := by
      rw [offset_next, Text.byteLength_cons, Nat.add_assoc]
    rw [List.cons_append, locateFrom, if_pos reached, moved, ih, after_cons]

theorem offset_start_after (front : List Char) :
    (start.after front).offset = Text.byteLength front := by
  rw [offset_after]
  exact Nat.zero_add _

/-- The offset behind a front part is located there. -/
theorem locate_after {front back : List Char} (split : text.toList = front ++ back) :
    locate text (Text.byteLength front) = start.after front := by
  have stepped := locateFrom_append start front back
  rw [show start.offset = 0 from rfl, Nat.zero_add, ← split] at stepped
  exact stepped

/-- The line of a place in the text can be cut out of it. -/
theorem lineCut?_eq {position : Position} (lies : position.LiesIn text.toList) :
    position.lineCut? text = some (position.lineText text) := by
  obtain ⟨front, back, split, rfl⟩ := lies
  obtain ⟨lines, current, rfl, ends, unbroken⟩ := Text.exists_lines front
  have rest : text.toList = lines ++ (current ++ back) := by rw [split, List.append_assoc]
  have line : (String.ofList (current ++ back)).toList =
      [] ++ (current ++ back).takeWhile (· != '\n') ++ (current ++ back).dropWhile (· != '\n') := by
    rw [String.toList_ofList, List.nil_append, List.takeWhile_append_dropWhile]
  have found := Text.cut?_eq line
  rw [List.nil_append, Text.byteLength_nil] at found
  unfold lineCut? lineText lineAt
  rw [lineStart_after ends unbroken, Text.cut?_end rest, rest, Text.dropBytes_byteLength]
  dsimp only [Bind.bind, Option.bind]
  rw [found]
  rfl

end Position

/-- Reports a failure with the line that is cut out of the text it was found in. -/
def Failure.report? (failure : Failure) (text : String) : Option ParseError :=
  (failure.position.lineCut? text).map (ParseError.mk failure.cause failure.position)

theorem Failure.report?_eq {failure : Failure} {text : String}
    (lies : failure.position.LiesIn text.toList) :
    failure.report? text = some (failure.report text) := by
  rw [report?, Position.lineCut?_eq lies]
  rfl

/-- The outcome of reading a text, its failure reported against that text. -/
def reported {First Second : Type} (text : String) (convert : First → Second) :
    Except Failure First → Except ParseError Second
  | .error failure => .error (failure.report text)
  | .ok value => .ok (convert value)

end Mustache
