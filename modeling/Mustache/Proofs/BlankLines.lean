import Mustache.Cursor
import Mustache.Proofs.TagParts

/-!
# Blank lines

A tag is alone on its line if only blanks stand before it on the line and only blanks up to the
line break behind it. Both are properties of the text on either side.
-/

namespace Mustache

set_option autoImplicit false

namespace Text

/-- Whether only blanks follow the last line break of the text. -/
def endsInBlanks (text : List Char) : Bool :=
  (text.reverse.takeWhile (· != '\n')).all isBlank

/-- Whether only blanks stand before the first line break of the text, or the end. -/
def startsInBlanks (text : List Char) : Bool :=
  match text.dropWhile isBlank with
  | [] => true
  | '\n' :: _ => true
  | '\r' :: '\n' :: _ => true
  | _ => false

/-- The text without the blanks and the one line break that it begins with. -/
def dropLine (text : List Char) : List Char :=
  match text.dropWhile isBlank with
  | '\n' :: rest => rest
  | '\r' :: '\n' :: rest => rest
  | rest => rest

/-- The blanks and the one line break that the text begins with. -/
def takeLine (text : List Char) : List Char :=
  text.takeWhile isBlank ++
    match text.dropWhile isBlank with
    | '\n' :: _ => ['\n']
    | '\r' :: '\n' :: _ => ['\r', '\n']
    | _ => []

def blanksAtEnd (text : List Char) : List Char := (text.reverse.takeWhile isBlank).reverse

def dropBlanksAtEnd (text : List Char) : List Char := (text.reverse.dropWhile isBlank).reverse

def EndsLine (text : List Char) : Prop := text = [] ∨ text.getLast? = some '\n'

theorem isSpace_of_isTagSpace {character : Char} (space : isTagSpace character = true) :
    isSpace character = true := by
  simp only [isTagSpace, Bool.or_eq_true, beq_iff_eq] at space
  rcases space with (((rfl | rfl) | rfl) | rfl) | rfl <;> rfl

theorem isSpace_of_isBlank {character : Char} (blank : isBlank character = true) :
    isSpace character = true :=
  isSpace_of_isTagSpace (isTagSpace_of_isBlank character blank)

theorem isBlank_of_dark {character : Char} (dark : isSpace character = false) :
    isBlank character = false := by
  cases blank : isBlank character with
  | false => rfl
  | true =>
    rw [isSpace_of_isBlank blank] at dark
    cases dark

theorem startsInBlanks_of_dark {first : Char} (dark : isSpace first = false) (rest : List Char) :
    startsInBlanks (first :: rest) = false := by
  unfold startsInBlanks
  rw [List.dropWhile_cons_of_neg (by simp [isBlank_of_dark dark])]
  split
  · rename_i ended
    cases ended
  · rename_i others same
    cases same
    cases dark
  · rename_i others same
    cases same
    cases dark
  · rfl

theorem dropBlanksAtEnd_append (text : List Char) :
    dropBlanksAtEnd text ++ blanksAtEnd text = text := by
  rw [dropBlanksAtEnd, blanksAtEnd, ← List.reverse_append, List.takeWhile_append_dropWhile,
    List.reverse_reverse]

theorem isBlank_of_mem_blanksAtEnd {text : List Char} :
    ∀ character ∈ blanksAtEnd text, isBlank character = true := by
  intro character inside
  exact List.all_eq_true.1 List.all_takeWhile character (List.mem_reverse.1 inside)

theorem isBlank_of_getLast?_dropBlanksAtEnd {text : List Char} {last : Char}
    (ends : (dropBlanksAtEnd text).getLast? = some last) : isBlank last = false := by
  rw [dropBlanksAtEnd, List.getLast?_reverse] at ends
  exact stopsAt_dropWhile isBlank text.reverse last ends

/-- The blanks at the end of a text are those at the end of its last part, unless that is blank and
more blanks stand before it. -/
theorem blanksAtEnd_append {front text : List Char}
    (stops : (∀ character ∈ text, isBlank character = true) → StopsAt isBlank front.reverse) :
    dropBlanksAtEnd (front ++ text) = front ++ dropBlanksAtEnd text ∧
      blanksAtEnd (front ++ text) = blanksAtEnd text := by
  have parts := dropBlanksAtEnd_append text
  have reversed : (front ++ text).reverse =
      (blanksAtEnd text).reverse ++ ((dropBlanksAtEnd text).reverse ++ front.reverse) := by
    rw [← List.reverse_append, ← List.reverse_append, List.append_assoc, parts]
  have all : ∀ character ∈ (blanksAtEnd text).reverse, isBlank character = true := by
    intro character inside
    exact isBlank_of_mem_blanksAtEnd character (List.mem_reverse.1 inside)
  have stopsHere : StopsAt isBlank ((dropBlanksAtEnd text).reverse ++ front.reverse) := by
    cases kept : (dropBlanksAtEnd text).reverse with
    | nil =>
      rw [List.reverse_eq_nil_iff] at kept
      rw [kept, List.nil_append] at parts
      apply stops
      rw [← parts]
      exact isBlank_of_mem_blanksAtEnd
    | cons last rest =>
      rw [List.cons_append, stopsAt_cons]
      apply isBlank_of_getLast?_dropBlanksAtEnd
      rw [← List.head?_reverse, kept]
      rfl
  constructor
  · rw [dropBlanksAtEnd, reversed, dropWhile_of_stopsAt all stopsHere]
    simp
  · rw [blanksAtEnd, reversed, takeWhile_of_stopsAt all stopsHere, List.reverse_reverse]

theorem dropBlanksAtEnd_of_blank {text : List Char}
    (blank : ∀ character ∈ text, isBlank character = true) :
    dropBlanksAtEnd text = [] ∧ blanksAtEnd text = text := by
  have reversed : ∀ character ∈ text.reverse, isBlank character = true := by
    intro character inside
    exact blank character (List.mem_reverse.1 inside)
  have same := dropBlanksAtEnd_append text
  have dropped := dropWhile_of_stopsAt reversed (stopsAt_nil isBlank)
  rw [List.append_nil] at dropped
  have none : dropBlanksAtEnd text = [] := by
    unfold dropBlanksAtEnd
    rw [dropped]
    rfl
  rw [none, List.nil_append] at same
  exact ⟨none, same⟩

/-- Text that ends in something else than a blank keeps its blanks off the text before. -/
theorem endsInBlanks_concat (text : List Char) (last : Char) :
    endsInBlanks (text ++ [last]) = (last == '\n' || isBlank last && endsInBlanks text) := by
  unfold endsInBlanks
  rw [List.reverse_append]
  by_cases newline : last = '\n'
  · subst newline
    rfl
  · simp [newline]

theorem endsInBlanks_append_blanks (text : List Char) {blanks : List Char}
    (all : ∀ character ∈ blanks, isBlank character = true) :
    endsInBlanks (text ++ blanks) = endsInBlanks text := by
  induction blanks generalizing text with
  | nil => rw [List.append_nil]
  | cons character blanks ih =>
    have blank := all character (List.mem_cons_self ..)
    rw [← List.singleton_append, ← List.append_assoc,
      ih (text ++ [character]) fun other inside => all other (List.mem_cons_of_mem _ inside),
      endsInBlanks_concat, blank]
    have notBreak : (character == '\n') = false := by
      rw [beq_eq_false_iff_ne]
      rintro rfl
      cases blank
    simp [notBreak]

theorem endsInBlanks_of_endsLine {text : List Char} (ends : EndsLine text) :
    endsInBlanks text = true := by
  rcases ends with rfl | last
  · rfl
  · obtain ⟨front, rfl⟩ := List.getLast?_eq_some_iff.1 last
    rw [endsInBlanks_concat]
    rfl

/-- The blanks after the last line break, or all of the text. -/
theorem endsInBlanks_iff (text : List Char) : endsInBlanks text = true ↔
    ∃ lines blanks, text = lines ++ blanks ∧ EndsLine lines ∧
      ∀ character ∈ blanks, isBlank character = true := by
  constructor
  · intro ends
    refine ⟨(text.reverse.dropWhile (· != '\n')).reverse,
      (text.reverse.takeWhile (· != '\n')).reverse, ?_, ?_, ?_⟩
    · rw [← List.reverse_append, List.takeWhile_append_dropWhile, List.reverse_reverse]
    · unfold EndsLine
      rw [List.getLast?_reverse, List.reverse_eq_nil_iff]
      cases known : text.reverse.dropWhile (· != '\n') with
      | nil => exact .inl rfl
      | cons head rest =>
        have stops := stopsAt_dropWhile (· != '\n') text.reverse
        rw [known, stopsAt_cons, bne_eq_false_iff_eq] at stops
        exact .inr (congrArg some stops)
    · intro character inside
      exact List.all_eq_true.1 ends character (List.mem_reverse.1 inside)
  · rintro ⟨lines, blanks, rfl, ends, all⟩
    rw [endsInBlanks_append_blanks lines all]
    exact endsInBlanks_of_endsLine ends

theorem startsInBlanks_iff (text : List Char) : startsInBlanks text = true ↔
    ∃ blanks rest, text = blanks ++ rest ∧ (∀ character ∈ blanks, isBlank character = true) ∧
      (rest = [] ∨ ['\n'] <+: rest ∨ ['\r', '\n'] <+: rest) := by
  constructor
  · intro starts
    refine ⟨text.takeWhile isBlank, text.dropWhile isBlank, List.takeWhile_append_dropWhile.symm,
      List.all_eq_true.1 List.all_takeWhile, ?_⟩
    unfold startsInBlanks at starts
    split at starts
    · rename_i ahead
      exact .inl ahead
    · rename_i rest ahead
      exact .inr (.inl ⟨rest, ahead.symm⟩)
    · rename_i rest ahead
      exact .inr (.inr ⟨rest, ahead.symm⟩)
    · cases starts
  · rintro ⟨blanks, rest, rfl, all, rfl | ⟨rest, rfl⟩ | ⟨rest, rfl⟩⟩
    · rw [startsInBlanks, dropWhile_of_stopsAt all (stopsAt_nil isBlank)]
    · have stops : StopsAt isBlank ('\n' :: rest) := stopsAt_cons.2 rfl
      rw [startsInBlanks, List.singleton_append, dropWhile_of_stopsAt all stops]
      rfl
    · have stops : StopsAt isBlank ('\r' :: '\n' :: rest) := stopsAt_cons.2 rfl
      rw [startsInBlanks, List.cons_append, List.singleton_append, dropWhile_of_stopsAt all stops]
      rfl

/-- Between two texts, only blanks stand before and behind on the line. -/
def BlankAround (front back : List Char) : Prop :=
  (∃ lines blanks, front = lines ++ blanks ∧ EndsLine lines ∧
    ∀ character ∈ blanks, isBlank character = true) ∧
  ∃ blanks rest, back = blanks ++ rest ∧ (∀ character ∈ blanks, isBlank character = true) ∧
    (rest = [] ∨ ['\n'] <+: rest ∨ ['\r', '\n'] <+: rest)

theorem blankAround_iff (front back : List Char) :
    BlankAround front back ↔ (endsInBlanks front && startsInBlanks back) = true := by
  rw [Bool.and_eq_true, endsInBlanks_iff, startsInBlanks_iff]
  rfl

instance (front back : List Char) : Decidable (BlankAround front back) :=
  decidable_of_iff _ (blankAround_iff front back).symm

/-- The line before the end of the text holds something else than blanks, unless it is empty. -/
def Settled (text : List Char) : Prop := endsInBlanks text = true → EndsLine text

theorem settled_nil : Settled [] := fun _ => .inl rfl

theorem settled_concat_newline (text : List Char) : Settled (text ++ ['\n']) :=
  fun _ => .inr List.getLast?_concat

/-- The blanks that a blank line ends in do not reach back into settled text. -/
theorem Settled.blanksAtEnd_append {before front text : List Char}
    (settled : Settled (before ++ front)) (ends : endsInBlanks (before ++ front ++ text) = true) :
    dropBlanksAtEnd (front ++ text) = front ++ dropBlanksAtEnd text ∧
      blanksAtEnd (front ++ text) = blanksAtEnd text := by
  apply Text.blanksAtEnd_append
  intro all
  rw [endsInBlanks_append_blanks _ all] at ends
  rcases List.eq_nil_or_concat front with rfl | ⟨lines, last, rfl⟩
  · exact stopsAt_nil isBlank
  · rw [List.concat_eq_append, List.reverse_append]
    rcases settled ends with none | newline
    · simp at none
    · rw [List.concat_eq_append, ← List.append_assoc, List.getLast?_concat,
        Option.some.injEq] at newline
      subst newline
      exact stopsAt_cons.2 rfl

/-- After a character that is no blank and breaks no line, the line is never blank. -/
theorem settled_of_dark (text : List Char) {last : Char} {blanks : List Char}
    (dark : isBlank last = false) (noBreak : last ≠ '\n')
    (all : ∀ character ∈ blanks, isBlank character = true) :
    Settled (text ++ [last] ++ blanks) := by
  intro ends
  rw [endsInBlanks_append_blanks _ all, endsInBlanks_concat, dark] at ends
  simp [noBreak] at ends

/-- The rest of a line is blanks and a line break, or blanks up to the end of the text. -/
theorem takeLine_cases (text : List Char) :
    ∃ blanks lineBreak, takeLine text = blanks ++ lineBreak ∧
      text = blanks ++ lineBreak ++ dropLine text ∧
      (∀ character ∈ blanks, isBlank character = true) ∧
      (lineBreak = ['\n'] ∨ lineBreak = ['\r', '\n'] ∨
        lineBreak = [] ∧ (startsInBlanks text = true → dropLine text = [])) := by
  have split := (List.takeWhile_append_dropWhile (p := isBlank) (l := text)).symm
  refine ⟨text.takeWhile isBlank, _, rfl, ?_, List.all_eq_true.1 List.all_takeWhile, ?_⟩
  · unfold dropLine
    split
    · rename_i rest ahead
      rw [ahead] at split
      simpa using split
    · rename_i rest ahead
      rw [ahead] at split
      simpa using split
    · simp
  · unfold startsInBlanks dropLine
    split
    · exact .inl rfl
    · exact .inr (.inl rfl)
    · refine .inr (.inr ⟨rfl, ?_⟩)
      intro starts
      split at starts
      · rename_i ahead
        rw [ahead]
      · rename_i noBreak _ _ rest ahead
        exact absurd ahead (noBreak rest)
      · rename_i noBreak _ rest ahead
        exact absurd ahead (noBreak rest)
      · cases starts

theorem takeLine_append_dropLine (text : List Char) : takeLine text ++ dropLine text = text := by
  obtain ⟨blanks, lineBreak, line, split, -, -⟩ := takeLine_cases text
  rw [line, ← split]

theorem isSpace_of_mem_takeLine {text : List Char} :
    ∀ character ∈ takeLine text, isSpace character = true := by
  obtain ⟨blanks, lineBreak, line, -, all, ends⟩ := takeLine_cases text
  intro character inside
  rw [line] at inside
  rcases List.mem_append.1 inside with blank | breaks
  · exact isSpace_of_isBlank (all character blank)
  · rcases ends with rfl | rfl | ⟨rfl, -⟩
    · rw [List.mem_singleton.1 breaks]
      rfl
    · rcases List.mem_cons.1 breaks with rfl | last
      · rfl
      · rw [List.mem_singleton.1 last]
        rfl
    · cases breaks

/-- Behind a tag and the rest of its line, the next line begins or the line holds the tag. -/
theorem settled_takeLine (front text : List Char) {last : Char} (dark : isSpace last = false) :
    Settled (front ++ [last] ++ takeLine text) := by
  obtain ⟨blanks, lineBreak, line, -, all, ends⟩ := takeLine_cases text
  have notBlank : isBlank last = false := by
    cases blank : isBlank last with
    | false => rfl
    | true => simp [isSpace_of_isBlank blank] at dark
  have noBreak : last ≠ '\n' := by
    rintro rfl
    cases dark
  rw [line]
  rcases ends with rfl | rfl | ⟨rfl, -⟩
  · rw [← List.append_assoc]
    exact settled_concat_newline _
  · simpa using settled_concat_newline (front ++ [last] ++ blanks ++ ['\r'])
  · rw [List.append_nil]
    exact settled_of_dark front notBlank noBreak all

/-- Text behind the rest of a blank line is left as it is. -/
theorem dropLine_takeLine_append {text gap : List Char} (starts : startsInBlanks text = true)
    (inside : gap <+: dropLine text) : dropLine (takeLine text ++ gap) = gap := by
  obtain ⟨blanks, lineBreak, line, -, all, ends⟩ := takeLine_cases text
  rw [line, List.append_assoc]
  rcases ends with rfl | rfl | ⟨rfl, rest⟩
  · have stops : StopsAt isBlank ('\n' :: gap) := stopsAt_cons.2 rfl
    rw [List.singleton_append, dropLine, dropWhile_of_stopsAt all stops]
    rfl
  · have stops : StopsAt isBlank ('\r' :: '\n' :: gap) := stopsAt_cons.2 rfl
    rw [List.cons_append, List.singleton_append, dropLine, dropWhile_of_stopsAt all stops]
    rfl
  · rw [rest starts, List.prefix_nil] at inside
    have dropped := dropWhile_of_stopsAt all (stopsAt_nil isBlank)
    rw [List.append_nil] at dropped
    rw [inside, List.append_nil, List.append_nil, dropLine, dropped]

end Text

namespace Position

/-- The column is zero at the beginning of each line and nowhere else. -/
theorem column_after_start (text : List Char) :
    (start.after text).column = 0 ↔ Text.EndsLine text := by
  unfold Text.EndsLine
  rcases List.eq_nil_or_concat text with rfl | ⟨front, last, rfl⟩
  · simp [start]
  · rw [List.concat_eq_append, after_append, after_cons, after_nil, List.getLast?_concat]
    by_cases newline : last = '\n'
    · simp [next, newline]
    · have size := last.utf8Size_pos
      simp only [next, newline, if_false, Option.some.injEq, List.append_eq_nil_iff]
      constructor
      · intro zero
        omega
      · rintro (⟨-, impossible⟩ | impossible)
        · cases impossible
        · cases impossible

end Position

end Mustache
