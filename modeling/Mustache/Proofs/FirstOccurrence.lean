import Mustache.Text.Search

/-!
# First occurrences

`Text.splitAt?` cuts a text at the first occurrence of a literal. This module says what that means:
the literal begins what follows, and begins nowhere earlier. Cut at one character after another, a
text falls into parts, which is an induction.
-/

namespace Mustache.Text

set_option autoImplicit false

/-- `literal` begins nowhere in `text ++ after` before `after` does. -/
def AbsentBefore (literal text after : List Char) : Prop :=
  ∀ front back, text = front ++ back → back ≠ [] → ¬ literal <+: back ++ after

theorem absentBefore_nil (literal after : List Char) : AbsentBefore literal [] after := by
  intro front back split nonempty
  simp [(List.append_eq_nil_iff.1 split.symm).2] at nonempty

theorem absentBefore_cons {literal text after : List Char} {character : Char} :
    AbsentBefore literal (character :: text) after ↔
      ¬ literal <+: character :: (text ++ after) ∧ AbsentBefore literal text after := by
  constructor
  · intro absent
    refine ⟨absent [] (character :: text) rfl (by simp), ?_⟩
    intro front back split nonempty
    exact absent (character :: front) back (by rw [split, List.cons_append]) nonempty
  · rintro ⟨here, later⟩ front back split nonempty
    cases front with
    | nil =>
      rw [List.nil_append] at split
      rwa [← split]
    | cons head front => exact later front back (List.cons.inj split).2 nonempty

theorem AbsentBefore.of_append {literal text after more : List Char}
    (absent : AbsentBefore literal text (after ++ more)) : AbsentBefore literal text after := by
  intro front back split nonempty begins
  apply absent front back split nonempty
  rw [← List.append_assoc]
  exact begins.trans (List.prefix_append _ _)

/-- Behind an occurrence of the literal, nothing can begin earlier than it. -/
theorem AbsentBefore.extend {literal text after : List Char}
    (absent : AbsentBefore literal text after) (begins : literal <+: after) (more : List Char) :
    AbsentBefore literal text (after ++ more) := by
  intro front back split nonempty occurs
  apply absent front back split nonempty
  rw [← List.append_assoc] at occurs
  apply List.prefix_of_prefix_length_le occurs (List.prefix_append _ _)
  have shorter := begins.length_le
  rw [List.length_append]
  omega

theorem AbsentBefore.exists_append {literal text after other rest : List Char}
    (absent : AbsentBefore literal text after) (same : text ++ after = other ++ rest)
    (begins : literal <+: rest) : ∃ between, other = text ++ between ∧ after = between ++ rest := by
  rcases List.append_eq_append_iff.1 same with ⟨between, split, tail⟩ | ⟨back, split, tail⟩
  · exact ⟨between, split, tail⟩
  · cases back with
    | nil => exact ⟨[], by simpa using split.symm, by simpa using tail.symm⟩
    | cons head back =>
      rw [tail] at begins
      exact absurd begins (absent other (head :: back) split (by simp))

theorem AbsentBefore.left {literal first second after : List Char}
    (absent : AbsentBefore literal (first ++ second) after) :
    AbsentBefore literal first (second ++ after) := by
  intro front back split nonempty begins
  apply absent front (back ++ second) (by rw [split, List.append_assoc]) (by simp [nonempty])
  rwa [List.append_assoc]

theorem AbsentBefore.right {literal first second after : List Char}
    (absent : AbsentBefore literal (first ++ second) after) :
    AbsentBefore literal second after := by
  intro front back split
  exact absent (first ++ front) back (by rw [split, List.append_assoc])

theorem absentBefore_of_not_mem {head : Char} {tail text : List Char} (outside : head ∉ text)
    (after : List Char) : AbsentBefore (head :: tail) text after := by
  intro front back split nonempty begins
  cases back with
  | nil => exact nonempty rfl
  | cons first back =>
    rw [List.cons_append, List.cons_prefix_cons] at begins
    exact outside (by simp [split, begins.1])

/-- A character that a literal does not have cannot lie within an occurrence of it. -/
theorem AbsentBefore.append_cons {literal first second after : List Char} {separator : Char}
    (outside : separator ∉ literal) (nonempty : literal ≠ [])
    (left : AbsentBefore literal first []) (right : AbsentBefore literal second after) :
    AbsentBefore literal (first ++ separator :: second) after := by
  induction first with
  | nil =>
    rw [List.nil_append, absentBefore_cons]
    refine ⟨?_, right⟩
    rintro ⟨rest, begins⟩
    cases literal with
    | nil => exact nonempty rfl
    | cons head literal =>
      rw [List.cons_append, List.cons.injEq] at begins
      rw [begins.1] at outside
      exact outside List.mem_cons_self
  | cons character first ih =>
    rw [absentBefore_cons] at left
    rw [List.cons_append, absentBefore_cons]
    refine ⟨?_, ih left.2⟩
    rintro ⟨rest, begins⟩
    apply left.1
    rw [List.append_nil]
    rw [List.append_assoc, ← List.cons_append] at begins
    rcases List.append_eq_append_iff.1 begins with ⟨between, split, -⟩ | ⟨beyond, split, tail⟩
    · rw [split]
      exact List.prefix_append _ _
    · cases beyond with
      | nil => simp [split]
      | cons head beyond =>
        rw [List.cons_append, List.cons_append, List.cons.injEq] at tail
        rw [split, ← tail.1] at outside
        simp at outside

theorem absentBefore_of_not_isInfix {literal text : List Char} (absent : ¬ literal <:+: text) :
    AbsentBefore literal text [] := by
  intro front back split _ ⟨rest, begins⟩
  rw [List.append_nil] at begins
  exact absent ⟨front, rest, by rw [split, ← begins, List.append_assoc]⟩

theorem isSome_stripStart? (literal text : List Char) :
    (stripStart? literal text).isSome ↔ literal <+: text := by
  rw [Option.isSome_iff_exists]
  constructor
  · rintro ⟨rest, stripped⟩
    exact ⟨rest, ((stripStart?_eq_some_iff literal text rest).1 stripped).symm⟩
  · rintro ⟨rest, rfl⟩
    exact ⟨rest, (stripStart?_eq_some_iff literal _ rest).2 rfl⟩

/-- A text is without a character, or it is cut at the first one of it. -/
theorem byBreaks (separator : Char) {motive : List Char → Prop}
    (last : ∀ part, separator ∉ part → motive part)
    (broken : ∀ part rest, separator ∉ part → motive rest → motive (part ++ separator :: rest))
    (text : List Char) : motive text := by
  by_cases breaks : separator ∈ text
  · obtain ⟨part, rest, split, whole⟩ := List.eq_append_cons_of_mem breaks
    have shorter : rest.length < text.length := by
      rw [split, List.length_append, List.length_cons]
      omega
    have behind := byBreaks separator last broken rest
    rw [split]
    exact broken part rest whole behind
  · exact last text breaks
termination_by text.length

theorem splitAtFrom_eq_map (literal passed text : List Char) :
    splitAtFrom literal passed text =
      (splitAtFrom literal [] text).map fun cut => (passed.reverse ++ cut.1, cut.2) := by
  induction text generalizing passed with
  | nil => rfl
  | cons character rest ih =>
    rw [splitAtFrom, splitAtFrom]
    split
    · simp
    · rw [ih (character :: passed), ih [character], Option.map_map]
      congr 1
      funext cut
      simp

@[simp]
theorem splitAt?_nil (text : List Char) : splitAt? [] text = none := rfl

theorem splitAt?_empty (literal : List Char) : splitAt? literal [] = none := by
  cases literal <;> rfl

/-- The cut is here, or it is a cut of the rest. -/
theorem splitAt?_cons {literal : List Char} (nonempty : literal ≠ []) (character : Char)
    (rest : List Char) :
    (literal <+: character :: rest ∧
      splitAt? literal (character :: rest) = some ([], character :: rest)) ∨
    (¬ literal <+: character :: rest ∧ splitAt? literal (character :: rest) =
      (splitAt? literal rest).map fun cut => (character :: cut.1, cut.2)) := by
  have filled : literal.isEmpty = false := by simpa using nonempty
  simp only [splitAt?, filled, Bool.false_eq_true, if_false]
  rw [splitAtFrom]
  by_cases here : literal <+: character :: rest
  · rw [if_pos ((isSome_stripStart? literal _).2 here)]
    exact .inl ⟨here, rfl⟩
  · rw [if_neg (mt (isSome_stripStart? literal _).1 here), splitAtFrom_eq_map]
    exact .inr ⟨here, rfl⟩

/-- The cut is at the first occurrence. -/
theorem splitAt?_eq_some_iff {literal text before after : List Char} (nonempty : literal ≠ []) :
    splitAt? literal text = some (before, after) ↔
      text = before ++ after ∧ literal <+: after ∧ AbsentBefore literal before after := by
  induction text generalizing before with
  | nil =>
    rw [splitAt?_empty]
    constructor
    · intro impossible
      cases impossible
    · rintro ⟨split, begins, -⟩
      obtain ⟨rfl, rfl⟩ := List.append_eq_nil_iff.1 split.symm
      exact absurd (List.prefix_nil.1 begins) nonempty
  | cons character rest ih =>
    rcases splitAt?_cons nonempty character rest with ⟨here, cut⟩ | ⟨absent, cut⟩
    · rw [cut]
      constructor
      · intro same
        cases same
        exact ⟨rfl, here, absentBefore_nil literal _⟩
      · rintro ⟨split, -, absentBefore⟩
        cases before with
        | nil => rw [split, List.nil_append]
        | cons head before =>
          obtain ⟨rfl, rfl⟩ := List.cons.inj split
          exact absurd here (absentBefore_cons.1 absentBefore).1
    · rw [cut]
      constructor
      · intro same
        obtain ⟨⟨front, back⟩, found, pair⟩ := Option.map_eq_some_iff.1 same
        cases pair
        obtain ⟨rfl, begins, later⟩ := ih.1 found
        exact ⟨rfl, begins, absentBefore_cons.2 ⟨absent, later⟩⟩
      · rintro ⟨split, begins, absentBefore⟩
        cases before with
        | nil =>
          rw [split] at absent
          exact absurd begins absent
        | cons head before =>
          obtain ⟨rfl, tail⟩ := List.cons.inj split
          rw [ih.2 ⟨tail, begins, (absentBefore_cons.1 absentBefore).2⟩]
          rfl

/-- Nothing is found in a text in which the literal begins nowhere. -/
theorem splitAt?_eq_none_iff {literal text : List Char} (nonempty : literal ≠ []) :
    splitAt? literal text = none ↔ AbsentBefore literal text [] := by
  induction text with
  | nil => exact ⟨fun _ => absentBefore_nil literal [], fun _ => splitAt?_empty literal⟩
  | cons character rest ih =>
    rw [absentBefore_cons, List.append_nil, ← ih]
    rcases splitAt?_cons nonempty character rest with ⟨here, cut⟩ | ⟨absent, cut⟩
    · simp [cut, here]
    · simp [cut, absent]

/-- Text in which the literal does not begin only moves the first occurrence. -/
theorem splitAt?_append_of_absent {literal text rest : List Char}
    (absent : AbsentBefore literal text rest) :
    splitAt? literal (text ++ rest) =
      (splitAt? literal rest).map fun cut => (text ++ cut.1, cut.2) := by
  by_cases empty : literal = []
  · simp [empty]
  · induction text with
    | nil => simp
    | cons character text ih =>
      rw [absentBefore_cons] at absent
      rcases splitAt?_cons empty character (text ++ rest) with ⟨here, -⟩ | ⟨-, cut⟩
      · exact absurd here absent.1
      · rw [List.cons_append, cut, ih absent.2, Option.map_map]
        rfl

end Mustache.Text
