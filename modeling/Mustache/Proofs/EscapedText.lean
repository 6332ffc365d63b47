import Mustache.Text.Html
import Mustache.Text.Indent

/-!
# Texts without markup

Literal text and escaped values are put one behind the other and indented. Two things are said of
all texts made that way: a character of markup that is in no literal text and in no indentation is
nowhere in them, and if that holds of the ampersand, every ampersand begins an entity.
-/

namespace Mustache.Text

set_option autoImplicit false

/-- The characters that begin and end tags and quoted attributes. -/
def markup : List Char := ['<', '>', '\x22', '\x27']

/-- What stands behind the ampersand of each entity that escaping writes. -/
def entities : List (List Char) :=
  [['a', 'm', 'p', ';'], ['l', 't', ';'], ['g', 't', ';'], ['q', 'u', 'o', 't', ';'],
    ['#', '3', '9', ';']]

/-- Every ampersand begins an entity. -/
def Entities : List Char → Prop
  | [] => True
  | character :: rest =>
    (character = '&' → ∃ entity ∈ entities, entity <+: rest) ∧ Entities rest

/-- A property of all texts that are made of allowed literal texts and of escaped ones. -/
structure Harmless (allowed holds : List Char → Prop) : Prop where
  nil : holds []
  append : ∀ first second, holds first → holds second → holds (first ++ second)
  literal : ∀ text, allowed text → holds text
  escaped : ∀ text, holds (List.flatMap escapeChar text)
  indented : ∀ indentation text, allowed indentation → holds text →
    holds (indentLines indentation text)

theorem escapeChar_cases (character : Char) :
    (escapeChar character = [character] ∧ character ≠ '&' ∧ character ∉ markup) ∨
      ∃ entity ∈ entities, escapeChar character = '&' :: entity := by
  unfold escapeChar markup entities
  split
  · exact .inr ⟨['a', 'm', 'p', ';'], by simp, rfl⟩
  split
  · exact .inr ⟨['l', 't', ';'], by simp, rfl⟩
  split
  · exact .inr ⟨['g', 't', ';'], by simp, rfl⟩
  split
  · exact .inr ⟨['q', 'u', 'o', 't', ';'], by simp, rfl⟩
  split
  · exact .inr ⟨['#', '3', '9', ';'], by simp, rfl⟩
  · refine .inl ⟨rfl, ?_, ?_⟩
    · assumption
    · simp_all

theorem notMem_entity {character : Char} {entity : List Char} (known : entity ∈ entities)
    (special : character ∈ '\n' :: '&' :: markup) : character ∉ entity := by
  have none : (entities.all fun entity =>
      ('\n' :: '&' :: markup).all fun other => !entity.contains other) = true := rfl
  simp only [List.all_eq_true] at none
  simpa using none entity known character special

/-- Text without a line break stays as it is when the text that it begins is indented. -/
theorem indentBefore_foldr_append {indentation first : List Char} (rest : List Char)
    (unbroken : '\n' ∉ first) :
    (first ++ rest).foldr (indentBefore indentation) [] =
      first ++ rest.foldr (indentBefore indentation) [] := by
  induction first with
  | nil => rfl
  | cons character first ih =>
    rw [List.mem_cons, not_or] at unbroken
    have other : ¬ character = '\n' := fun same => unbroken.1 same.symm
    rw [List.cons_append, List.foldr_cons, ih unbroken.2]
    simp [indentBefore, other]

/-- A property of texts that holds of their parts holds of the indented text. -/
theorem indentLines_of_parts (holds : List Char → Prop) {indentation text : List Char}
    (nil : holds []) (append : ∀ first second, holds first → holds second → holds (first ++ second))
    (indent : holds indentation)
    (lines : holds (text.foldr (indentBefore indentation) [])) :
    holds (indentLines indentation text) := by
  unfold indentLines
  dsimp only
  split
  · exact nil
  · exact append _ _ indent lines

section Missing

variable {character : Char}

theorem notMem_escapeChar (special : character ∈ markup) (other : Char) :
    character ∉ escapeChar other := by
  rcases escapeChar_cases other with ⟨same, -, plain⟩ | ⟨entity, known, same⟩
  · rw [same, List.mem_singleton]
    intro equal
    exact plain (equal ▸ special)
  · rw [same, List.mem_cons, not_or]
    refine ⟨?_, notMem_entity known (by simp [special])⟩
    intro equal
    rw [equal] at special
    exact absurd special (by decide)

theorem notMem_foldr_indentBefore {indentation text : List Char} (clear : character ∉ indentation)
    (missing : character ∉ text) : character ∉ text.foldr (indentBefore indentation) [] := by
  induction text with
  | nil => exact missing
  | cons first rest ih =>
    rw [List.mem_cons, not_or] at missing
    have later := ih missing.2
    rw [List.foldr_cons, indentBefore]
    split
    · rename_i breaks
      have isBreak : first = '\n' := by
        simp only [Bool.and_eq_true, decide_eq_true_eq] at breaks
        exact breaks.1
      rw [isBreak] at missing
      simp [missing.1, clear, later]
    · simp [missing.1, later]

theorem harmless_notMem (special : character ∈ markup) :
    Harmless (fun text => character ∉ text) (fun text => character ∉ text) where
  nil := List.not_mem_nil
  append first second clear later := by simp [clear, later]
  literal text clear := clear
  escaped text := by
    rw [List.mem_flatMap]
    rintro ⟨other, -, found⟩
    exact notMem_escapeChar special other found
  indented indentation text clear missing := by
    apply indentLines_of_parts (fun text => character ∉ text) List.not_mem_nil
    · intro first second clear later
      simp [clear, later]
    · exact clear
    · exact notMem_foldr_indentBefore clear missing

end Missing

section Ampersands

theorem entities_append {first second : List Char} (begin : Entities first)
    (later : Entities second) : Entities (first ++ second) := by
  induction first with
  | nil => exact later
  | cons character first ih =>
    obtain ⟨entity, rest⟩ := begin
    refine ⟨?_, ih rest⟩
    intro ampersand
    obtain ⟨known, member, begins⟩ := entity ampersand
    exact ⟨known, member, begins.trans (List.prefix_append _ _)⟩

theorem entities_of_notMem {text : List Char} (missing : '&' ∉ text) : Entities text := by
  induction text with
  | nil => trivial
  | cons character text ih =>
    rw [List.mem_cons, not_or] at missing
    refine ⟨?_, ih missing.2⟩
    intro ampersand
    exact absurd ampersand.symm missing.1

theorem entities_escapeChar (character : Char) : Entities (escapeChar character) := by
  rcases escapeChar_cases character with ⟨same, other, -⟩ | ⟨entity, known, same⟩
  · rw [same]
    exact entities_of_notMem (by simpa using Ne.symm other)
  · rw [same]
    refine ⟨fun _ => ⟨entity, known, List.prefix_rfl⟩, ?_⟩
    exact entities_of_notMem (notMem_entity known (by simp))

/-- No entity is broken up by indentation, since there is no line break in one. -/
theorem entities_foldr_indentBefore {indentation text : List Char} (clear : '&' ∉ indentation)
    (whole : Entities text) : Entities (text.foldr (indentBefore indentation) []) := by
  induction text with
  | nil => trivial
  | cons character rest ih =>
    obtain ⟨entity, later⟩ := whole
    have lines := ih later
    rw [List.foldr_cons, indentBefore]
    split
    · refine ⟨?_, entities_append (entities_of_notMem clear) lines⟩
      intro impossible
      exact absurd impossible (by decide)
    · refine ⟨?_, lines⟩
      intro ampersand
      obtain ⟨known, member, more, rfl⟩ := entity ampersand
      rw [indentBefore_foldr_append more (notMem_entity member (by simp))]
      exact ⟨known, member, List.prefix_append _ _⟩

theorem harmless_entities : Harmless (fun text => '&' ∉ text) Entities where
  nil := trivial
  append _ _ := entities_append
  literal _ := entities_of_notMem
  escaped text := by
    induction text with
    | nil => trivial
    | cons character text ih => exact entities_append (entities_escapeChar character) ih
  indented indentation text clear whole := by
    apply indentLines_of_parts Entities trivial
    · exact fun _ _ => entities_append
    · exact entities_of_notMem clear
    · exact entities_foldr_indentBefore clear whole

theorem exists_entity {before after : List Char} (whole : Entities (before ++ '&' :: after)) :
    ∃ entity ∈ entities, entity <+: after := by
  induction before with
  | nil => exact whole.1 rfl
  | cons character before ih => exact ih whole.2

end Ampersands

end Mustache.Text
