import Mustache.Proofs.BlankLines
import Mustache.Proofs.TagReading

/-!
# Delimiters without white space

Delimiters that hold no white space cannot begin inside blanks or line breaks, so what a standalone
tag takes with it hides no other tag. Every delimiter change names such a pair.
-/

namespace Mustache

set_option autoImplicit false

theorem Text.isSpace_of_mem_words {text word : List Char} (inside : word ∈ words text) :
    ∀ character ∈ word, isSpace character = false := by
  induction text generalizing word with
  | nil => cases inside
  | cons character rest ih =>
    unfold words at inside
    split at inside
    · exact ih inside
    · rename_i dark
      have here : isSpace character = false := by simpa using dark
      split at inside
      · rw [List.mem_singleton] at inside
        simp [inside, here]
      · split at inside
        · rcases List.mem_cons.1 inside with rfl | later
          · simp [here]
          · exact ih later
        · split at inside
          · rw [List.mem_singleton] at inside
            simp [inside, here]
          · rename_i first others known
            rw [known] at ih
            rcases List.mem_cons.1 inside with rfl | later
            · intro other found
              rcases List.mem_cons.1 found with rfl | found
              · exact here
              · exact ih (List.mem_cons_self ..) other found
            · exact ih (List.mem_cons_of_mem first later)

theorem Text.ne_nil_of_mem_words {text word : List Char} (inside : word ∈ words text) :
    word ≠ [] := by
  induction text generalizing word with
  | nil => cases inside
  | cons character rest ih =>
    unfold words at inside
    split at inside
    · exact ih inside
    · split at inside
      · simp_all
      · split at inside
        · rcases List.mem_cons.1 inside with rfl | later
          · simp
          · exact ih later
        · split at inside
          · simp_all
          · rename_i first others known
            rw [known] at ih
            rcases List.mem_cons.1 inside with rfl | later
            · simp
            · exact ih (List.mem_cons_of_mem first later)

theorem Text.stopsAt_of_dark {accept : Char → Bool}
    (spaces : ∀ character, accept character = true → isSpace character = true) {text : List Char}
    (dark : ∀ character ∈ text, isSpace character = false) : StopsAt accept text := by
  intro character found
  cases accepted : accept character with
  | false => rfl
  | true =>
    have here := dark character (List.mem_of_mem_head? found)
    rw [spaces character accepted] at here
    cases here

namespace Delimiters

/-- Neither text of the pair holds white space. -/
structure Plain (delimiters : Delimiters) : Prop where
  opening : ∀ character ∈ delimiters.opening.toList, Text.isSpace character = false
  closing : ∀ character ∈ delimiters.closing.toList, Text.isSpace character = false

theorem standard_plain : standard.Plain where
  opening := by
    intro character inside
    have brace : character ∈ List.replicate 2 '\x7b' := inside
    rw [List.eq_of_mem_replicate brace]
    rfl
  closing := by
    intro character inside
    have brace : character ∈ List.replicate 2 '\x7d' := inside
    rw [List.eq_of_mem_replicate brace]
    rfl

namespace Plain

variable {delimiters : Delimiters}

theorem mark_eq (plain : delimiters.Plain) : delimiters.mark = delimiters.opening.toList := by
  unfold mark
  cases known : delimiters.opening.toList with
  | nil => rfl
  | cons first rest =>
    have dark := plain.opening first (by simp [known])
    simp [Text.isBlank_of_dark dark]

theorem mark (plain : delimiters.Plain) :
    ∀ character ∈ delimiters.mark, Text.isSpace character = false := by
  rw [plain.mark_eq]
  exact plain.opening

/-- White space is no part of the text that opens a tag. -/
theorem stopsAt_mark (plain : delimiters.Plain) (accept : Char → Bool)
    (spaces : ∀ character, accept character = true → Text.isSpace character = true) :
    Text.StopsAt accept delimiters.mark :=
  Text.stopsAt_of_dark spaces plain.mark

theorem absentBefore_of_spaces (plain : delimiters.Plain) (nonempty : delimiters.mark ≠ [])
    {text : List Char} (spaces : ∀ character ∈ text, Text.isSpace character = true)
    (after : List Char) : Text.AbsentBefore delimiters.mark text after := by
  intro front back split filled begins
  cases known : delimiters.mark with
  | nil => exact nonempty known
  | cons first rest =>
    cases back with
    | nil => exact filled rfl
    | cons head back =>
      rw [known, List.cons_append, List.cons_prefix_cons] at begins
      have dark := plain.mark first (by simp [known])
      rw [begins.1, spaces head (by simp [split])] at dark
      cases dark

end Plain

theorem words_of_parse? {content : List Char} {pair : Delimiters}
    (known : parse? content = some pair) :
    Text.words content = [pair.opening.toList, pair.closing.toList] := by
  unfold parse? at known
  split at known
  · rename_i opening closing found
    cases known
    rw [found, String.toList_ofList, String.toList_ofList]
  · cases known

theorem plain_of_parse? {content : List Char} {pair : Delimiters}
    (known : parse? content = some pair) : pair.Plain where
  opening := by
    have first : pair.opening.toList ∈ Text.words content := by
      rw [words_of_parse? known]
      exact List.mem_cons_self
    exact Text.isSpace_of_mem_words first
  closing := by
    have second : pair.closing.toList ∈ Text.words content := by
      rw [words_of_parse? known]
      exact List.mem_cons_of_mem _ List.mem_cons_self
    exact Text.isSpace_of_mem_words second

theorem filled_of_parse? {content : List Char} {pair : Delimiters}
    (known : parse? content = some pair) :
    pair.opening.toList ≠ [] ∧ pair.closing.toList ≠ [] := by
  have filled (word : List Char) (inside : word ∈ Text.words content) : word ≠ [] :=
    Text.ne_nil_of_mem_words inside
  rw [words_of_parse? known] at filled
  exact ⟨filled _ List.mem_cons_self, filled _ (List.mem_cons_of_mem _ List.mem_cons_self)⟩

/-- A pair of two words, as a delimiter change names it. -/
structure Worded (pair : Delimiters) : Prop where
  plain : pair.Plain
  opening : pair.mark ≠ []
  closing : pair.closing.toList ≠ []

theorem standard_worded : standard.Worded := ⟨standard_plain, by decide, by decide⟩

theorem worded_of_parse? {content : List Char} {pair : Delimiters}
    (known : parse? content = some pair) : pair.Worded where
  plain := plain_of_parse? known
  opening := by
    rw [(plain_of_parse? known).mark_eq]
    exact (filled_of_parse? known).1
  closing := (filled_of_parse? known).2

end Delimiters

namespace TagParts

variable {delimiters : Delimiters} {parts : TagParts} {kind : TagKind}

theorem delimitersAfter_cases (known : TagKind.of? parts.sigil parts.content = some kind)
    (position : Position) :
    (parts.toTag delimiters position kind).delimitersAfter = delimiters ∨
      Delimiters.parse? parts.content =
        some (parts.toTag delimiters position kind).delimitersAfter := by
  unfold Tag.delimitersAfter toTag
  dsimp only
  split
  · rename_i pair
    unfold TagKind.of? at known
    split at known <;> try cases known
    obtain ⟨same, parsed, change⟩ := Option.map_eq_some_iff.1 known
    cases change
    exact .inr parsed
  · exact .inl rfl

theorem plain_delimitersAfter (plain : delimiters.Plain)
    (known : TagKind.of? parts.sigil parts.content = some kind) (position : Position) :
    (parts.toTag delimiters position kind).delimitersAfter.Plain := by
  rcases delimitersAfter_cases known position with same | parsed
  · rw [same]
    exact plain
  · exact Delimiters.plain_of_parse? parsed

theorem worded_delimitersAfter (worded : delimiters.Worded)
    (known : TagKind.of? parts.sigil parts.content = some kind) (position : Position) :
    (parts.toTag delimiters position kind).delimitersAfter.Worded := by
  rcases delimitersAfter_cases known position with same | parsed
  · rw [same]
    exact worded
  · exact Delimiters.worded_of_parse? parsed

end TagParts

end Mustache
