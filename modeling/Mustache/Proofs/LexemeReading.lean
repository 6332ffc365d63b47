import Mustache.Proofs.BlankLines
import Mustache.Proofs.Tagging

/-!
# Reading a lexeme

The lexer reads a tag with the blanks before it wherever an open delimiter follows the cursor or
only blanks stand in between, and otherwise text in which no tag begins.
-/

namespace Mustache

set_option autoImplicit false

namespace Tag

variable {delimiters : Delimiters} {cursor : Cursor}

/-- A tag that is ahead is read as a tag is read anywhere, and then settled in its line. -/
theorem scan?_eq_some {leading rest : List Char}
    (plain : delimiters.Plain) (nonempty : delimiters.mark ≠ [])
    (ahead : cursor.rest = leading ++ (delimiters.mark ++ rest))
    (blanks : ∀ character ∈ leading, Text.isBlank character = true) :
    scan? delimiters cursor =
      some ((scanBare delimiters (cursor.pass leading (delimiters.mark ++ rest))).map fun read =>
        read.1.settle cursor.atLineStart leading read.2) := by
  have stops : Text.StopsAt Text.isBlank (delimiters.mark ++ rest) :=
    (plain.stopsAt_mark Text.isBlank fun _ => Text.isSpace_of_isBlank).append nonempty rest
  unfold scan?
  rw [Cursor.takeWhile_eq ahead blanks stops]
  dsimp only
  rw [Cursor.literal?_eq nonempty rfl, Option.map_some, scanInside_eq_map_settle]
  simp [scanBare, Cursor.take, Cursor.pass]

/-- An open delimiter that only blanks separate from the cursor. -/
def Ahead (delimiters : Delimiters) (text : List Char) : Prop :=
  delimiters.mark ≠ [] ∧ ∃ leading rest, text = leading ++ (delimiters.mark ++ rest) ∧
    ∀ character ∈ leading, Text.isBlank character = true

theorem scan?_eq_none (absent : ¬ Ahead delimiters cursor.rest) :
    scan? delimiters cursor = none := by
  unfold scan?
  rw [Option.map_eq_none_iff]
  cases read : (cursor.takeWhile Text.isBlank).2.literal? delimiters.mark with
  | none => rfl
  | some inside =>
    obtain ⟨leading, begins⟩ : ∃ leading, cursor.takeWhile Text.isBlank = leading := ⟨_, rfl⟩
    rw [begins] at read
    obtain ⟨ahead, blanks, -⟩ := Cursor.takeWhile_inv begins
    obtain ⟨⟨split, -⟩, nonempty⟩ := Cursor.passes_literal? _ _ _ read
    rw [split] at ahead
    exact absurd ⟨nonempty, leading.1, inside.rest, ahead, blanks⟩ absent

end Tag

namespace Lexeme

/-- Text before a tag ends a line, or the line that it ends in holds more than blanks. -/
theorem withoutIndentation_cases {text : List Char}
    (dark : ∃ character ∈ text, Text.isBlank character = false) :
    (∀ before, Text.Settled (before ++ withoutIndentation text)) ∧
      ∃ blanks, text = withoutIndentation text ++ blanks := by
  have split := Text.dropBlanksAtEnd_append text
  have unfolded : withoutIndentation text = if (Text.dropBlanksAtEnd text).getLast? = some '\n'
    then Text.dropBlanksAtEnd text else text := rfl
  by_cases ends : (Text.dropBlanksAtEnd text).getLast? = some '\n'
  · rw [unfolded, if_pos ends]
    refine ⟨?_, Text.blanksAtEnd text, split.symm⟩
    obtain ⟨front, same⟩ := List.getLast?_eq_some_iff.1 ends
    intro before
    rw [same, ← List.append_assoc]
    exact Text.settled_concat_newline (before ++ front)
  · rw [unfolded, if_neg ends]
    refine ⟨?_, [], by simp⟩
    intro before
    rcases List.eq_nil_or_concat (Text.dropBlanksAtEnd text) with none | ⟨front, last, same⟩
    · obtain ⟨character, inside, notBlank⟩ := dark
      rw [none, List.nil_append] at split
      rw [← split] at inside
      rw [Text.isBlank_of_mem_blanksAtEnd character inside] at notBlank
      cases notBlank
    · rw [List.concat_eq_append] at same
      have atEnd : (Text.dropBlanksAtEnd text).getLast? = some last := by
        rw [same, List.getLast?_concat]
      have noBreak : last ≠ '\n' := by
        rintro rfl
        exact ends atEnd
      rw [← split, same, ← List.append_assoc, ← List.append_assoc]
      exact Text.settled_of_dark (before ++ front)
        (Text.isBlank_of_getLast?_dropBlanksAtEnd atEnd) noBreak Text.isBlank_of_mem_blanksAtEnd

/-- Where no tag begins, text is read that holds no open delimiter. -/
theorem literal_cases {delimiters : Delimiters} {first : Char} {rest : List Char}
    (absent : ¬ Tag.Ahead delimiters (first :: rest)) :
    ∃ back, first :: rest = literal delimiters.mark first rest ++ back ∧
      (delimiters.mark ≠ [] →
        Text.AbsentBefore delimiters.mark (literal delimiters.mark first rest) back) ∧
      (back = [] ∨ ∀ before, Text.Settled (before ++ literal delimiters.mark first rest)) := by
  have here (nonempty : delimiters.mark ≠ []) : ¬ delimiters.mark <+: first :: rest := by
    rintro ⟨after, split⟩
    exact absent ⟨nonempty, [], after, by simp [split], by simp⟩
  unfold literal
  split
  · rename_i uncut
    refine ⟨[], by simp, ?_, .inl rfl⟩
    intro nonempty
    rw [Text.absentBefore_cons, List.append_nil]
    exact ⟨here nonempty, (Text.splitAt?_eq_none_iff nonempty).1 uncut⟩
  · rename_i before after cut
    have nonempty : delimiters.mark ≠ [] := by
      intro empty
      rw [empty] at cut
      cases cut
    obtain ⟨split, ⟨following, begins⟩, later⟩ := (Text.splitAt?_eq_some_iff nonempty).1 cut
    have dark : ∃ character ∈ first :: before, Text.isBlank character = false := by
      apply Classical.byContradiction
      intro none
      apply absent
      refine ⟨nonempty, first :: before, following, by rw [begins, split, List.cons_append], ?_⟩
      intro character inside
      cases blank : Text.isBlank character with
      | true => rfl
      | false => exact absurd ⟨character, inside, blank⟩ none
    obtain ⟨settled, blanks, kept⟩ := withoutIndentation_cases dark
    refine ⟨blanks ++ after, ?_, ?_, .inr settled⟩
    · rw [← List.append_assoc, ← kept, split, List.cons_append]
    · intro _
      have whole : Text.AbsentBefore delimiters.mark (first :: before) after := by
        rw [Text.absentBefore_cons, ← split]
        exact ⟨here nonempty, later⟩
      rw [kept] at whole
      exact whole.left

end Lexeme

namespace Lexer

/-- Where no opening delimiter lies ahead, all the rest is one literal text. -/
theorem next?_of_untagged {lexer : Lexer}
    (untagged : lexer.delimiters.mark ≠ [] → ¬ lexer.delimiters.mark <:+: lexer.cursor.rest)
    (filled : lexer.cursor.rest ≠ []) :
    lexer.next? =
      some (.ok (.text lexer.cursor.rest, ⟨lexer.delimiters, lexer.cursor.takeRest.2⟩)) := by
  have missed : Tag.scan? lexer.delimiters lexer.cursor = none := by
    apply Tag.scan?_eq_none
    rintro ⟨marked, leading, rest, split, -⟩
    exact untagged marked ⟨leading, rest, by rw [split, List.append_assoc]⟩
  unfold next?
  split
  · rename_i ended
    exact absurd ended filled
  · rename_i first rest ahead
    have uncut : Text.splitAt? lexer.delimiters.mark rest = none := by
      by_cases marked : lexer.delimiters.mark = []
      · rw [marked, Text.splitAt?_nil]
      · rw [Text.splitAt?_eq_none_iff marked]
        apply Text.absentBefore_of_not_isInfix
        intro inside
        apply untagged marked
        rw [ahead]
        exact inside.trans (List.suffix_cons first rest).isInfix
    have whole : Lexeme.literal lexer.delimiters.mark first rest = first :: rest := by
      unfold Lexeme.literal
      rw [uncut]
    have taken : lexer.cursor.take (first :: rest).length = lexer.cursor.takeRest := by
      unfold Cursor.takeRest Cursor.take
      rw [ahead, List.take_length, List.drop_length]
    rw [missed, whole, taken]
    rfl

/-- All that the lexer can do next. -/
inductive Steps (lexer : Lexer) : Option (Except Failure (Lexeme × Lexer)) → Prop where
  | done (ended : lexer.cursor.rest = []) : Steps lexer none
  | text (content rest : List Char) (nonempty : content ≠ [])
      (ahead : lexer.cursor.rest = content ++ rest)
      (absent : lexer.delimiters.mark ≠ [] →
        Text.AbsentBefore lexer.delimiters.mark content rest)
      (settled : rest = [] ∨ ∀ before, Text.Settled (before ++ content)) :
      Steps lexer (some (.ok (.text content, ⟨lexer.delimiters, lexer.cursor.pass content rest⟩)))
  | failed (leading rest : List Char) (failure : Failure)
      (nonempty : lexer.delimiters.mark ≠ [])
      (ahead : lexer.cursor.rest = leading ++ (lexer.delimiters.mark ++ rest))
      (blanks : ∀ character ∈ leading, Text.isBlank character = true)
      (read : Tag.scanBare lexer.delimiters
        (lexer.cursor.pass leading (lexer.delimiters.mark ++ rest)) = .error failure) :
      Steps lexer (some (.error failure))
  | tag (leading rest : List Char) (tag settled : Tag) (after next : Cursor)
      (nonempty : lexer.delimiters.mark ≠ [])
      (ahead : lexer.cursor.rest = leading ++ (lexer.delimiters.mark ++ rest))
      (blanks : ∀ character ∈ leading, Text.isBlank character = true)
      (read : Tag.scanBare lexer.delimiters
        (lexer.cursor.pass leading (lexer.delimiters.mark ++ rest)) = .ok (tag, after))
      (line : tag.settle lexer.cursor.atLineStart leading after = (settled, next)) :
      Steps lexer (some (.ok (.tag settled, ⟨settled.delimitersAfter, next⟩)))

theorem steps_next? (lexer : Lexer) (plain : lexer.delimiters.Plain) :
    lexer.Steps lexer.next? := by
  obtain ⟨delimiters, cursor⟩ := lexer
  unfold next?
  split
  · rename_i ended
    exact .done ended
  · rename_i first rest ahead
    dsimp only at ahead plain ⊢
    by_cases tagAhead : Tag.Ahead delimiters cursor.rest
    · obtain ⟨nonempty, leading, following, split, blanks⟩ := tagAhead
      rw [Tag.scan?_eq_some plain nonempty split blanks]
      cases read : Tag.scanBare delimiters (cursor.pass leading (delimiters.mark ++ following)) with
      | error failure => exact .failed leading following failure nonempty split blanks read
      | ok pair =>
        obtain ⟨tag, after⟩ := pair
        exact .tag leading following tag _ after _ nonempty split blanks read rfl
    · rw [Tag.scan?_eq_none tagAhead]
      dsimp only
      rw [ahead] at tagAhead
      obtain ⟨back, split, absent, settled⟩ := Lexeme.literal_cases tagAhead
      have taken : cursor.take (Lexeme.literal delimiters.mark first rest).length =
          (Lexeme.literal delimiters.mark first rest,
            cursor.pass (Lexeme.literal delimiters.mark first rest) back) := by
        rw [Cursor.take, ahead]
        rw [split, List.take_left, List.drop_left]
      rw [taken]
      exact .text _ back (Lexeme.literal_ne_nil _ first rest) (ahead.trans split) absent settled

end Lexer

end Mustache
