import Mathlib.Data.List.Induction
import Mustache.Proofs.PlainDelimiters

/-!
# Line breaks with carriage returns

A text in which every line break gets a carriage return before it. Reading treats the two
characters alike, or looks for text that has neither, so what is cut off the text is cut off the
changed one as well, with the changed line breaks in it.
-/

namespace Mustache

set_option autoImplicit false

namespace Text

/-- The text with `\r\n` for every `\n`. -/
def crlf : List Char → List Char
  | [] => []
  | character :: rest =>
    if character = '\n' then '\r' :: '\n' :: crlf rest else character :: crlf rest

@[simp]
theorem crlf_nil : crlf [] = [] := rfl

@[simp]
theorem crlf_newline (rest : List Char) : crlf ('\n' :: rest) = '\r' :: '\n' :: crlf rest := by
  simp [crlf]

theorem crlf_cons {character : Char} (other : character ≠ '\n') (rest : List Char) :
    crlf (character :: rest) = character :: crlf rest := by
  simp [crlf, other]

/-- A text begins with a line break, with another character, or not at all. -/
theorem crlf_cases {motive : List Char → Prop} (nil : motive [])
    (newline : ∀ rest, motive rest → motive ('\n' :: rest))
    (other : ∀ (character : Char) (rest : List Char), character ≠ '\n' → motive rest →
      motive (character :: rest)) (text : List Char) : motive text := by
  induction text with
  | nil => exact nil
  | cons character rest ih =>
    by_cases same : character = '\n'
    · rw [same]
      exact newline rest ih
    · exact other character rest same ih

@[simp]
theorem crlf_append (first second : List Char) :
    crlf (first ++ second) = crlf first ++ crlf second := by
  induction first using crlf_cases with
  | nil => rfl
  | newline rest ih => simp [ih]
  | other character rest other ih => simp [crlf_cons other, ih]

theorem crlf_of_notMem {text : List Char} (unbroken : '\n' ∉ text) : crlf text = text := by
  induction text with
  | nil => rfl
  | cons character rest ih =>
    rw [List.mem_cons, not_or] at unbroken
    rw [crlf_cons (Ne.symm unbroken.1), ih unbroken.2]

@[simp]
theorem crlf_eq_nil {text : List Char} : crlf text = [] ↔ text = [] := by
  cases text with
  | nil => simp
  | cons character rest =>
    by_cases newline : character = '\n'
    · simp [newline]
    · simp [crlf_cons newline]

@[simp]
theorem isEmpty_crlf (text : List Char) : (crlf text).isEmpty = text.isEmpty := by
  rw [Bool.eq_iff_iff, List.isEmpty_iff, List.isEmpty_iff, crlf_eq_nil]

theorem flatten_map_crlf (pieces : List (List Char)) :
    (pieces.map crlf).flatten = crlf pieces.flatten := by
  induction pieces with
  | nil => rfl
  | cons piece pieces ih => simp [ih]

@[simp]
theorem getLast?_crlf (text : List Char) : (crlf text).getLast? = text.getLast? := by
  rcases List.eq_nil_or_concat text with rfl | ⟨front, last, rfl⟩
  · rfl
  · by_cases newline : last = '\n'
    · simp [newline]
    · simp [crlf_cons newline]

section Classes

variable {accept : Char → Bool} (alike : accept '\r' = accept '\n')

include alike

theorem takeWhile_crlf (text : List Char) :
    (crlf text).takeWhile accept = crlf (text.takeWhile accept) := by
  induction text using crlf_cases with
  | nil => rfl
  | newline rest ih => cases accepted : accept '\n' <;> simp [alike, accepted, ih]
  | other character rest other ih =>
    cases accepted : accept character <;> simp [crlf_cons other, accepted, ih]

theorem dropWhile_crlf (text : List Char) :
    (crlf text).dropWhile accept = crlf (text.dropWhile accept) := by
  induction text using crlf_cases with
  | nil => rfl
  | newline rest ih => cases accepted : accept '\n' <;> simp [alike, accepted, ih]
  | other character rest other ih =>
    cases accepted : accept character <;> simp [crlf_cons other, accepted, ih]

theorem dropEnd_crlf (text : List Char) : ((crlf text).reverse.dropWhile accept).reverse =
    crlf (text.reverse.dropWhile accept).reverse := by
  induction text using List.reverseRecOn with
  | nil => rfl
  | append_singleton front last ih =>
    by_cases newline : last = '\n'
    · cases accepted : accept '\n' <;> simp_all
    · cases accepted : accept last <;> simp_all [crlf_cons newline]

end Classes

theorem trimEnd_crlf (text : List Char) : trimEnd (crlf text) = crlf (trimEnd text) :=
  dropEnd_crlf (by decide) text

theorem words_cons_space {character : Char} (space : isSpace character = true)
    (rest : List Char) : words (character :: rest) = words rest := by
  rw [words.eq_def]
  simp [space]

/-- The words of a text do not depend on its line breaks. -/
theorem words_crlf (text : List Char) : words (crlf text) = words text := by
  have returns : isSpace '\r' = true := by decide
  have breaks : isSpace '\n' = true := by decide
  induction text using crlf_cases with
  | nil => rfl
  | newline rest ih =>
    rw [crlf_newline, words_cons_space returns, words_cons_space breaks, words_cons_space breaks, ih]
  | other character rest other ih =>
    rw [crlf_cons other, words.eq_def, words.eq_def (character :: rest)]
    dsimp only
    rw [ih]
    split
    · rfl
    · cases rest with
      | nil => rfl
      | cons next more =>
        by_cases newline : next = '\n'
        · rw [newline, crlf_newline]
          dsimp only
          rw [returns, breaks]
        · rw [crlf_cons newline]

/-- A text on one line, which reading can look for in either text. -/
def Unbroken (literal : List Char) : Prop := '\n' ∉ literal ∧ '\r' ∉ literal

theorem unbroken_of_plain {literal : List Char}
    (plain : ∀ character ∈ literal, isSpace character = false) : Unbroken literal := by
  constructor
  · intro inside
    exact absurd (plain _ inside) (by decide)
  · intro inside
    exact absurd (plain _ inside) (by decide)

theorem stripStart?_crlf {literal : List Char} (unbroken : Unbroken literal) (text : List Char) :
    stripStart? literal (crlf text) = (stripStart? literal text).map crlf := by
  induction literal generalizing text with
  | nil => rfl
  | cons expected literal ih =>
    obtain ⟨newline, carriage⟩ := unbroken
    rw [List.mem_cons, not_or] at newline carriage
    cases text with
    | nil => rfl
    | cons character rest =>
      by_cases breaks : character = '\n'
      · rw [breaks, crlf_newline, stripStart?, stripStart?, if_neg (Ne.symm carriage.1),
          if_neg (Ne.symm newline.1)]
        rfl
      · rw [crlf_cons breaks, stripStart?, stripStart?]
        split
        · exact ih ⟨newline.2, carriage.2⟩ rest
        · rfl

theorem prefix_crlf_iff {literal : List Char} (unbroken : Unbroken literal) (text : List Char) :
    literal <+: crlf text ↔ literal <+: text := by
  rw [← isSome_stripStart?, ← isSome_stripStart?, stripStart?_crlf unbroken, Option.isSome_map]

theorem not_prefix_of_break {literal : List Char} (nonempty : literal ≠ [])
    (unbroken : Unbroken literal) {breaking : Char} (breaks : breaking = '\n' ∨ breaking = '\r')
    (rest : List Char) : ¬ literal <+: breaking :: rest := by
  cases literal with
  | nil => exact absurd rfl nonempty
  | cons expected literal =>
    intro begins
    obtain ⟨newline, carriage⟩ := unbroken
    rw [List.cons_prefix_cons] at begins
    rcases breaks with same | same
    · exact newline (by simp [begins.1, same])
    · exact carriage (by simp [begins.1, same])

theorem splitAt?_cons_of_not {literal : List Char} (nonempty : literal ≠ []) {character : Char}
    {rest : List Char} (absent : ¬ literal <+: character :: rest) :
    splitAt? literal (character :: rest) =
      (splitAt? literal rest).map fun cut => (character :: cut.1, cut.2) := by
  rcases splitAt?_cons nonempty character rest with ⟨here, -⟩ | ⟨-, later⟩
  · exact absurd here absent
  · exact later

theorem splitAt?_cons_break {literal : List Char} (unbroken : Unbroken literal)
    {breaking : Char} (breaks : breaking = '\n' ∨ breaking = '\r') (rest : List Char) :
    splitAt? literal (breaking :: rest) =
      (splitAt? literal rest).map fun cut => (breaking :: cut.1, cut.2) := by
  by_cases nonempty : literal = []
  · rw [nonempty]
    rfl
  · exact splitAt?_cons_of_not nonempty (not_prefix_of_break nonempty unbroken breaks rest)

theorem splitAt?_crlf {literal : List Char} (unbroken : Unbroken literal) (text : List Char) :
    splitAt? literal (crlf text) =
      (splitAt? literal text).map fun cut => (crlf cut.1, crlf cut.2) := by
  by_cases empty : literal = []
  · rw [empty]
    rfl
  induction text using crlf_cases with
  | nil => rw [crlf_nil, splitAt?_empty]; rfl
  | newline rest ih =>
    rw [crlf_newline, splitAt?_cons_break unbroken (.inr rfl),
      splitAt?_cons_break unbroken (.inl rfl), splitAt?_cons_break unbroken (.inl rfl), ih]
    simp only [Option.map_map]
    rfl
  | other character rest other ih =>
    have begins := prefix_crlf_iff unbroken (character :: rest)
    rw [crlf_cons other] at begins ⊢
    rcases splitAt?_cons empty character rest with ⟨here, cut⟩ | ⟨absent, cut⟩
    · rcases splitAt?_cons empty character (crlf rest) with ⟨-, same⟩ | ⟨away, -⟩
      · rw [cut, same]
        simp [crlf_cons other]
      · exact absurd (begins.2 here) away
    · rw [cut, splitAt?_cons_of_not empty (mt begins.1 absent), ih]
      simp only [Option.map_map]
      congr 1
      funext cut
      simp [crlf_cons other]

end Text

/-- The same line and column in the text with the longer line breaks. -/
def Position.crlf (position : Position) : Position :=
  ⟨position.offset + position.line, position.lineStart + position.line, position.line,
    position.column⟩

theorem Position.after_crlf (position : Position) (text : List Char) :
    position.crlf.after (Text.crlf text) = (position.after text).crlf := by
  induction text using Text.crlf_cases generalizing position with
  | nil => rfl
  | newline rest ih =>
    have step : (position.crlf.next '\r').next '\n' = (position.next '\n').crlf := by
      have size : '\r'.utf8Size = 1 := by decide
      simp only [next, crlf, if_true, size, Char.reduceEq, if_false, Position.mk.injEq, and_true]
      omega
    rw [Text.crlf_newline, after_cons, after_cons, after_cons, step, ih]
  | other character rest other ih =>
    have step : position.crlf.next character = (position.next character).crlf := by
      simp only [next, crlf, other, if_false, Position.mk.injEq, and_true]
      omega
    rw [Text.crlf_cons other, after_cons, after_cons, step, ih]

def Cursor.crlf (cursor : Cursor) : Cursor := ⟨cursor.position.crlf, Text.crlf cursor.rest⟩

namespace Cursor

variable (cursor : Cursor)

theorem pass_crlf (consumed rest : List Char) :
    cursor.crlf.pass (Text.crlf consumed) (Text.crlf rest) = (cursor.pass consumed rest).crlf :=
  congrArg (Cursor.mk · (Text.crlf rest)) (Position.after_crlf cursor.position consumed)

theorem takeWhile_crlf {accept : Char → Bool} (alike : accept '\r' = accept '\n') :
    cursor.crlf.takeWhile accept =
      (Text.crlf (cursor.takeWhile accept).1, (cursor.takeWhile accept).2.crlf) := by
  have taken : cursor.crlf.rest.takeWhile accept = Text.crlf (cursor.rest.takeWhile accept) :=
    Text.takeWhile_crlf alike cursor.rest
  have left : cursor.crlf.rest.dropWhile accept = Text.crlf (cursor.rest.dropWhile accept) :=
    Text.dropWhile_crlf alike cursor.rest
  unfold takeWhile
  dsimp only
  rw [taken, left, pass_crlf]

theorem takeOne_crlf {accept : Char → Bool} (returns : accept '\r' = false)
    (breaks : accept '\n' = false) :
    cursor.crlf.takeOne accept = ((cursor.takeOne accept).1, (cursor.takeOne accept).2.crlf) ∧
      Text.crlf (cursor.takeOne accept).1 = (cursor.takeOne accept).1 := by
  obtain ⟨position, rest⟩ := cursor
  cases rest with
  | nil => exact ⟨rfl, rfl⟩
  | cons character rest =>
    by_cases newline : character = '\n'
    · subst newline
      simp [takeOne, crlf, returns, breaks]
    · have moved := pass_crlf ⟨position, character :: rest⟩ [character] rest
      rw [Text.crlf_cons newline] at moved
      cases accepted : accept character with
      | false => simp [takeOne, crlf, Text.crlf_cons newline, accepted]
      | true =>
        simp only [takeOne, crlf, Text.crlf_cons newline, accepted, if_true]
        exact ⟨congrArg (Prod.mk [character]) moved, rfl⟩

theorem literal?_crlf {literal : List Char} (unbroken : Text.Unbroken literal) :
    cursor.crlf.literal? literal = (cursor.literal? literal).map crlf := by
  have stripped : Text.stripStart? literal cursor.crlf.rest = _ :=
    Text.stripStart?_crlf unbroken cursor.rest
  unfold literal?
  rw [stripped]
  split
  · rfl
  · rw [Option.map_map, Option.map_map]
    congr 1
    funext rest
    have moved := cursor.pass_crlf literal rest
    rwa [Text.crlf_of_notMem unbroken.1] at moved

theorem until?_crlf {literal : List Char} (unbroken : Text.Unbroken literal) :
    cursor.crlf.until? literal =
      (cursor.until? literal).map fun found => (Text.crlf found.1, found.2.crlf) := by
  have split : Text.splitAt? literal cursor.crlf.rest = _ :=
    Text.splitAt?_crlf unbroken cursor.rest
  unfold until?
  rw [split, Option.map_map, Option.map_map]
  congr 1
  funext cut
  exact congrArg (Prod.mk _) (cursor.pass_crlf cut.1 cut.2)

theorem take_length {taken : List Char} (begins : taken <+: cursor.rest) :
    cursor.take taken.length = (taken, cursor.pass taken (cursor.rest.drop taken.length)) := by
  obtain ⟨more, split⟩ := begins
  simp [take, ← split]

/-- A beginning of the text is taken from the changed one as changed. -/
theorem take_crlf {taken : List Char} (begins : taken <+: cursor.rest) :
    cursor.crlf.take (Text.crlf taken).length =
      (Text.crlf taken, (cursor.take taken.length).2.crlf) := by
  obtain ⟨position, rest⟩ := cursor
  obtain ⟨more, rfl⟩ := begins
  have split : (⟨position, taken ++ more⟩ : Cursor).crlf.rest =
      Text.crlf taken ++ Text.crlf more := Text.crlf_append taken more
  have moved := pass_crlf ⟨position, taken ++ more⟩ taken more
  simp only [take, split, List.take_left, List.drop_left, moved]

section Breaks

variable (noReturn : '\r' ∉ cursor.rest)

include noReturn

theorem takeLineBreak_crlf : cursor.crlf.takeLineBreak =
    (Text.crlf cursor.takeLineBreak.1, cursor.takeLineBreak.2.crlf) := by
  obtain ⟨position, rest⟩ := cursor
  cases rest with
  | nil => rfl
  | cons character rest =>
    by_cases newline : character = '\n'
    · subst newline
      have moved := pass_crlf ⟨position, '\n' :: rest⟩ ['\n'] rest
      simp only [crlf, Text.crlf_newline, Text.crlf_nil] at moved
      simp only [takeLineBreak, crlf, Text.crlf_newline, Text.crlf_nil, moved]
    · have other : character ≠ '\r' := by
        rintro rfl
        exact noReturn List.mem_cons_self
      have stays (found : Cursor) (ahead : ∃ more, found.rest = character :: more) :
          found.takeLineBreak = ([], found) := by
        obtain ⟨more, known⟩ := ahead
        unfold takeLineBreak
        rw [known]
        split <;> simp_all
      rw [stays ⟨position, character :: rest⟩ ⟨rest, rfl⟩,
        stays (crlf ⟨position, character :: rest⟩) ⟨_, Text.crlf_cons newline rest⟩]
      rfl

theorem blankToLineEnd_crlf : cursor.crlf.blankToLineEnd = cursor.blankToLineEnd := by
  have ahead : cursor.crlf.rest.dropWhile Text.isBlank =
      Text.crlf (cursor.rest.dropWhile Text.isBlank) := Text.dropWhile_crlf (by decide) cursor.rest
  have without : '\r' ∉ cursor.rest.dropWhile Text.isBlank := by
    intro inside
    exact noReturn ((List.dropWhile_sublist _).subset inside)
  unfold blankToLineEnd
  rw [ahead]
  cases left : cursor.rest.dropWhile Text.isBlank with
  | nil => rfl
  | cons character rest =>
    rw [left] at without
    by_cases newline : character = '\n'
    · rw [newline, Text.crlf_newline]
      rfl
    · have other : character ≠ '\r' := by
        rintro rfl
        exact without List.mem_cons_self
      rw [Text.crlf_cons newline]
      split <;> split <;> simp_all

end Breaks

end Cursor

end Mustache
