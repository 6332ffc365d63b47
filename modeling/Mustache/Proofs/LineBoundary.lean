import Mathlib.Data.List.Basic
import Mustache.Proofs.LineRule

/-!
# Reading on behind a line break

A text that ends in a line break is read in the same way whatever follows it, up to its last literal
text: nothing that a lexeme looks for lies across a line break, and behind one a line begins. Only a
literal text that reaches the cut goes on behind it.
-/

namespace Mustache

set_option autoImplicit false

namespace Text

/-- Blanks end before the line break, so the rest of a line is the same whatever follows. -/
theorem line_append {text : List Char} (ends : text.getLast? = some '\n') (more : List Char) :
    startsInBlanks (text ++ more) = startsInBlanks text ∧
      takeLine (text ++ more) = takeLine text ∧ dropLine (text ++ more) = dropLine text ++ more := by
  have split : text.takeWhile isBlank ++ text.dropWhile isBlank = text :=
    List.takeWhile_append_dropWhile
  have all : ∀ character ∈ text.takeWhile isBlank, isBlank character = true :=
    List.all_eq_true.1 List.all_takeWhile
  have stops := stopsAt_dropWhile isBlank text
  generalize text.takeWhile isBlank = blanks at split all
  generalize text.dropWhile isBlank = ahead at split stops
  subst split
  have filled : ahead ≠ [] := by
    rintro rfl
    rw [List.append_nil] at ends
    have blank := all '\n' (List.mem_of_getLast? ends)
    cases blank
  have stopsMore := stops.append filled more
  unfold startsInBlanks takeLine dropLine
  rw [List.append_assoc, dropWhile_of_stopsAt all stops, dropWhile_of_stopsAt all stopsMore,
    takeWhile_of_stopsAt all stops, takeWhile_of_stopsAt all stopsMore]
  match ahead with
  | [head] =>
    obtain rfl : head = '\n' := by simpa using ends
    exact ⟨rfl, rfl, rfl⟩
  | head :: second :: rest =>
    refine ⟨?_, ?_, ?_⟩ <;> split <;> simp_all

/-- A literal without white space does not lie across a line break. -/
theorem AbsentBefore.endsLine {literal text : List Char}
    (dark : ∀ character ∈ literal, isSpace character = false)
    (absent : AbsentBefore literal text []) (ends : EndsLine text) (more : List Char) :
    AbsentBefore literal text more := by
  intro front back split nonempty begins
  have last : back.getLast? = some '\n' := by
    rcases ends with rfl | newline
    · exact absurd (List.append_eq_nil_iff.1 split.symm).2 nonempty
    · rwa [split, List.getLast?_append_of_ne_nil _ nonempty] at newline
  obtain ⟨rest, whole⟩ := begins
  rcases List.append_eq_append_iff.1 whole with ⟨between, inside, -⟩ | ⟨beyond, across, -⟩
  · apply absent front back split nonempty
    rw [inside, List.append_nil]
    exact List.prefix_append _ _
  · have newline : '\n' ∈ literal := by
      rw [across]
      exact List.mem_append_left _ (List.mem_of_getLast? last)
    cases dark '\n' newline

end Text

namespace Tag

variable {delimiters : Delimiters}

/-- No tag begins across a line break. -/
theorem Ahead.of_append {text more : List Char} (plain : delimiters.Plain)
    (ends : text.getLast? = some '\n') (begins : Ahead delimiters (text ++ more)) :
    Ahead delimiters text := by
  obtain ⟨nonempty, leading, rest, split, blanks⟩ := begins
  rw [← List.append_assoc] at split
  rcases List.append_eq_append_iff.1 split with ⟨between, across, -⟩ | ⟨rest, inside, -⟩
  · have newline : '\n' ∈ leading ++ delimiters.mark := by
      rw [across]
      exact List.mem_append_left _ (List.mem_of_getLast? ends)
    rcases List.mem_append.1 newline with blank | marked
    · cases blanks '\n' blank
    · cases plain.mark '\n' marked
  · exact ⟨nonempty, leading, rest, by rw [inside, List.append_assoc], blanks⟩

theorem scanBare_append {position : Position} {rest : List Char} {next : Cursor} {tag : Tag}
    (read : scanBare delimiters ⟨position, delimiters.mark ++ rest⟩ = .ok (tag, next))
    (more : List Char) :
    scanBare delimiters ⟨position, delimiters.mark ++ (rest ++ more)⟩ =
      .ok (tag, ⟨next.position, next.rest ++ more⟩) := by
  obtain ⟨parts, kind, fits, known, rfl, split, moved⟩ := scanBare_inv read
  rw [split, List.append_assoc, scanBare_eq fits known position (next.rest ++ more), moved]

theorem settle_append (tag : Tag) (atLineStart : Bool) (leading : List Char) {after : Cursor}
    (ends : after.rest.getLast? = some '\n') (more : List Char) :
    tag.settle atLineStart leading ⟨after.position, after.rest ++ more⟩ =
      ((tag.settle atLineStart leading after).1,
        ⟨(tag.settle atLineStart leading after).2.position,
          (tag.settle atLineStart leading after).2.rest ++ more⟩) := by
  obtain ⟨starts, taken, dropped⟩ := Text.line_append ends more
  rw [settle_eq, settle_eq]
  dsimp only
  rw [starts, taken, dropped]
  split <;> rfl

/-- A tag ends in its closing delimiter, so a line break at the end of the text lies behind it. -/
theorem getLast?_behind {position : Position} {rest : List Char} {next : Cursor} {tag : Tag}
    (plain : delimiters.Plain)
    (read : scanBare delimiters ⟨position, delimiters.mark ++ rest⟩ = .ok (tag, next))
    (ends : rest.getLast? = some '\n') : next.rest.getLast? = some '\n' := by
  obtain ⟨parts, kind, fits, -, -, split, -⟩ := scanBare_inv read
  by_cases none : next.rest = []
  · rw [none, List.append_nil] at split
    rw [split, List.getLast?_append_of_ne_nil _ fits.closing_ne] at ends
    cases plain.closing '\n' (List.mem_of_getLast? ends)
  · rwa [split, List.getLast?_append_of_ne_nil _ none] at ends

end Tag

namespace Lexeme

/-- The blanks that a text ends in do not reach back over a line break. -/
theorem withoutIndentation_append {content : List Char} (ends : content.getLast? = some '\n')
    (text : List Char) :
    withoutIndentation (content ++ text) =
      content ++ if Text.dropBlanksAtEnd text = [] then [] else withoutIndentation text := by
  have stops : Text.StopsAt Text.isBlank content.reverse := by
    obtain ⟨front, rfl⟩ := List.getLast?_eq_some_iff.1 ends
    rw [List.reverse_append]
    exact Text.stopsAt_cons.2 rfl
  have kept := (@Text.blanksAtEnd_append content text fun _ => stops).1
  have unfolded (text : List Char) : withoutIndentation text =
      if (Text.dropBlanksAtEnd text).getLast? = some '\n' then Text.dropBlanksAtEnd text
      else text := rfl
  rw [unfolded, unfolded, kept]
  by_cases none : Text.dropBlanksAtEnd text = []
  · rw [if_pos none, none, List.append_nil, if_pos ends]
  · rw [if_neg none, List.getLast?_append_of_ne_nil _ none]
    split <;> rfl

theorem withoutIndentation_begins (text : List Char) : withoutIndentation text <+: text := by
  have kept : Text.dropBlanksAtEnd text <+: text :=
    ⟨Text.blanksAtEnd text, Text.dropBlanksAtEnd_append text⟩
  have unfolded : withoutIndentation text = if (Text.dropBlanksAtEnd text).getLast? = some '\n'
    then Text.dropBlanksAtEnd text else text := rfl
  rw [unfolded]
  split
  · exact kept
  · exact List.prefix_refl text

variable {delimiters : Delimiters} {first : Char} {rest : List Char}

/-- A literal text that ends before a tag is the same whatever follows. -/
theorem literal_append_of_cut {before after : List Char}
    (cut : Text.splitAt? delimiters.mark rest = some (before, after)) (more : List Char) :
    literal delimiters.mark first (rest ++ more) = literal delimiters.mark first rest := by
  have nonempty : delimiters.mark ≠ [] := by
    intro empty
    rw [empty] at cut
    cases cut
  obtain ⟨split, begins, absent⟩ := (Text.splitAt?_eq_some_iff nonempty).1 cut
  have cutMore : Text.splitAt? delimiters.mark (rest ++ more) = some (before, after ++ more) := by
    apply (Text.splitAt?_eq_some_iff nonempty).2
    refine ⟨?_, begins.trans (List.prefix_append _ _), absent.extend begins more⟩
    rw [split, List.append_assoc]
  unfold literal
  rw [cut, cutMore]

theorem length_literal_of_cut {before after : List Char}
    (cut : Text.splitAt? delimiters.mark rest = some (before, after)) :
    (literal delimiters.mark first rest).length < (first :: rest).length := by
  have nonempty : delimiters.mark ≠ [] := by
    intro empty
    rw [empty] at cut
    cases cut
  obtain ⟨split, begins, -⟩ := (Text.splitAt?_eq_some_iff nonempty).1 cut
  have kept := (withoutIndentation_begins (first :: before)).length_le
  have filled := List.length_pos_iff.2 nonempty
  have marked := begins.length_le
  unfold literal
  rw [cut, split]
  simp only [List.length_cons, List.length_append] at kept ⊢
  omega

theorem splitAt?_line_append (plain : delimiters.Plain)
    (ends : (first :: rest).getLast? = some '\n')
    (uncut : Text.splitAt? delimiters.mark rest = none) (more : List Char) :
    Text.splitAt? delimiters.mark (rest ++ more) =
      (Text.splitAt? delimiters.mark more).map fun cut => (rest ++ cut.1, cut.2) := by
  by_cases empty : delimiters.mark = []
  · rw [empty]
    rfl
  · have lines : Text.EndsLine rest := by
      by_cases none : rest = []
      · exact .inl none
      · rw [← List.singleton_append, List.getLast?_append_of_ne_nil _ none] at ends
        exact .inr ends
    have absent := (Text.splitAt?_eq_none_iff empty).1 uncut
    exact Text.splitAt?_append_of_absent (absent.endsLine plain.mark lines more)

/-- A literal text that reaches the cut ends there if only blanks come before the next tag. -/
theorem literal_append_of_ahead (plain : delimiters.Plain)
    (ends : (first :: rest).getLast? = some '\n')
    (uncut : Text.splitAt? delimiters.mark rest = none) {more : List Char}
    (begins : Tag.Ahead delimiters more) :
    literal delimiters.mark first (rest ++ more) = first :: rest := by
  obtain ⟨nonempty, leading, following, rfl, blanks⟩ := begins
  have spaces : ∀ character ∈ leading, Text.isSpace character = true :=
    fun character inside => Text.isSpace_of_isBlank (blanks character inside)
  have cut : Text.splitAt? delimiters.mark (leading ++ (delimiters.mark ++ following)) =
      some (leading, delimiters.mark ++ following) :=
    (Text.splitAt?_eq_some_iff nonempty).2
      ⟨rfl, List.prefix_append _ _, plain.absentBefore_of_spaces nonempty spaces _⟩
  unfold literal
  rw [splitAt?_line_append plain ends uncut, cut]
  change withoutIndentation ((first :: rest) ++ leading) = _
  rw [withoutIndentation_append ends, if_pos (Text.dropBlanksAtEnd_of_blank blanks).1,
    List.append_nil]

/-- Otherwise it goes on with the literal text behind the cut. -/
theorem literal_append_of_absent (plain : delimiters.Plain)
    (ends : (first :: rest).getLast? = some '\n')
    (uncut : Text.splitAt? delimiters.mark rest = none) {head : Char} {tail : List Char}
    (absent : ¬ Tag.Ahead delimiters (head :: tail)) :
    literal delimiters.mark first (rest ++ head :: tail) =
      (first :: rest) ++ literal delimiters.mark head tail := by
  unfold literal
  rw [splitAt?_line_append plain ends uncut]
  by_cases empty : delimiters.mark = []
  · rw [empty]
    rfl
  · have notHere : ¬ delimiters.mark <+: head :: tail := by
      rintro ⟨following, split⟩
      exact absent ⟨empty, [], following, split.symm, by simp⟩
    rcases Text.splitAt?_cons empty head tail with ⟨here, -⟩ | ⟨-, cut⟩
    · exact absurd here notHere
    · rw [cut]
      cases found : Text.splitAt? delimiters.mark tail with
      | none => rfl
      | some pair =>
        obtain ⟨before, after⟩ := pair
        obtain ⟨split, ⟨following, marked⟩, -⟩ := (Text.splitAt?_eq_some_iff empty).1 found
        change withoutIndentation ((first :: rest) ++ (head :: before)) = _
        have dark : Text.dropBlanksAtEnd (head :: before) ≠ [] := by
          intro none
          have blank := Text.dropBlanksAtEnd_append (head :: before)
          rw [none, List.nil_append] at blank
          apply absent
          refine ⟨empty, head :: before, following, by rw [marked, split]; rfl, ?_⟩
          rw [← blank]
          exact Text.isBlank_of_mem_blanksAtEnd
        rw [withoutIndentation_append ends, if_neg dark]

theorem literal_of_uncut (uncut : Text.splitAt? delimiters.mark rest = none) :
    literal delimiters.mark first rest = first :: rest := by
  unfold literal
  rw [uncut]

end Lexeme

/-- The delimiters after a tag that is read under `pair`. -/
def Tag.pairAfter (pair : Delimiters) (tag : Tag) : Delimiters :=
  match tag.kind with
  | .setDelimiters change => change
  | _ => pair

def Lexeme.pairAfter (pair : Delimiters) (lexemes : List Lexeme) : Delimiters :=
  (bareTags lexemes).foldl Tag.pairAfter pair

namespace Lexing

/-- The literal text goes on in front of the first lexeme. -/
def prependText (content : List Char) (lexing : Lexing) : Lexing :=
  match lexing.lexemes with
  | .text next :: rest => ⟨.text (content ++ next) :: rest, lexing.failure⟩
  | lexemes => ⟨.text content :: lexemes, lexing.failure⟩

/-- What is read behind the lexemes of whole lines. -/
def behind : List Lexeme → Lexing → Lexing
  | [], lexing => lexing
  | [.text content], lexing => lexing.prependText content
  | lexeme :: rest, lexing => (behind rest lexing).cons lexeme

theorem behind_cons {lexeme : Lexeme} {rest : List Lexeme} (lexing : Lexing)
    (goesOn : (∃ tag, lexeme = .tag tag) ∨ rest ≠ []) :
    behind (lexeme :: rest) lexing = (behind rest lexing).cons lexeme := by
  cases lexeme with
  | tag tag => rfl
  | text content =>
    cases rest with
    | cons second rest => rfl
    | nil => simp at goesOn

end Lexing

namespace Lexer

/-- The lexer with more text behind what is ahead. -/
def extend (lexer : Lexer) (more : List Char) : Lexer :=
  ⟨lexer.delimiters, ⟨lexer.cursor.position, lexer.cursor.rest ++ more⟩⟩

theorem collect_of_read {lexer next : Lexer} {lexeme : Lexeme}
    (read : lexer.next? = some (.ok (lexeme, next))) :
    lexer.collect [] = (next.collect []).cons lexeme := by
  rw [collect_of_ok [] read, collect_eq_cons next [lexeme]]
  rfl

theorem next?_of_ahead {lexer : Lexer} {leading rest : List Char}
    (plain : lexer.delimiters.Plain) (nonempty : lexer.delimiters.mark ≠ [])
    (ahead : lexer.cursor.rest = leading ++ (lexer.delimiters.mark ++ rest))
    (blanks : ∀ character ∈ leading, Text.isBlank character = true) :
    lexer.next? = some ((Tag.scanBare lexer.delimiters
        (lexer.cursor.pass leading (lexer.delimiters.mark ++ rest))).map fun read =>
      let settled := read.1.settle lexer.cursor.atLineStart leading read.2
      (.tag settled.1, ⟨settled.1.delimitersAfter, settled.2⟩)) := by
  have scanned := Tag.scan?_eq_some plain nonempty ahead blanks
  unfold next?
  split
  · rename_i none
    rw [none] at ahead
    simp [nonempty] at ahead
  · rw [scanned]
    cases Tag.scanBare lexer.delimiters
      (lexer.cursor.pass leading (lexer.delimiters.mark ++ rest)) with
    | error failure => rfl
    | ok pair => rfl

theorem next?_of_absent {lexer : Lexer} {first : Char} {rest : List Char}
    (ahead : lexer.cursor.rest = first :: rest)
    (absent : ¬ Tag.Ahead lexer.delimiters (first :: rest)) :
    ∃ back, first :: rest = Lexeme.literal lexer.delimiters.mark first rest ++ back ∧
      lexer.next? = some (.ok (.text (Lexeme.literal lexer.delimiters.mark first rest),
        ⟨lexer.delimiters,
          lexer.cursor.pass (Lexeme.literal lexer.delimiters.mark first rest) back⟩)) := by
  obtain ⟨back, split, -, -⟩ := Lexeme.literal_cases absent
  have scanned : Tag.scan? lexer.delimiters lexer.cursor = none := by
    apply Tag.scan?_eq_none
    rwa [ahead]
  have taken : lexer.cursor.take (Lexeme.literal lexer.delimiters.mark first rest).length =
      (Lexeme.literal lexer.delimiters.mark first rest,
        lexer.cursor.pass (Lexeme.literal lexer.delimiters.mark first rest) back) := by
    rw [Cursor.take, ahead]
    rw [split, List.take_left, List.drop_left]
  refine ⟨back, split, ?_⟩
  unfold next?
  split
  · rename_i none
    rw [none] at ahead
    cases ahead
  · rename_i other others known
    rw [ahead] at known
    cases known
    rw [scanned]
    dsimp only
    rw [taken]

/-- A tag of whole lines is read in the same way whatever follows them. -/
theorem next?_extend_tag {lexer next : Lexer} {tag : Tag} (plain : lexer.delimiters.Plain)
    (ends : lexer.cursor.rest.getLast? = some '\n')
    (read : lexer.next? = some (.ok (.tag tag, next))) (more : List Char) :
    (lexer.extend more).next? = some (.ok (.tag tag, next.extend more)) := by
  have step := lexer.steps_next? plain
  rw [read] at step
  cases step with
  | tag leading rest bare settled after next nonempty ahead blanks scanned line =>
    have aheadMore : (lexer.extend more).cursor.rest =
        leading ++ (lexer.delimiters.mark ++ (rest ++ more)) := by
      simp [extend, ahead]
    have endsRest : rest.getLast? = some '\n' := by
      by_cases none : rest = []
      · rw [ahead, none, List.append_nil, List.getLast?_append_of_ne_nil _ nonempty] at ends
        cases plain.mark '\n' (List.mem_of_getLast? ends)
      · rwa [ahead, List.getLast?_append_of_ne_nil _ (by simp [none]),
          List.getLast?_append_of_ne_nil _ none] at ends
    have scannedMore : Tag.scanBare (lexer.extend more).delimiters ((lexer.extend more).cursor.pass
        leading ((lexer.extend more).delimiters.mark ++ (rest ++ more))) =
          .ok (bare, ⟨after.position, after.rest ++ more⟩) :=
      Tag.scanBare_append scanned more
    have settledMore := bare.settle_append lexer.cursor.atLineStart leading
      (Tag.getLast?_behind plain scanned endsRest) more
    rw [line] at settledMore
    have column : (lexer.extend more).cursor.atLineStart = lexer.cursor.atLineStart := rfl
    rw [@next?_of_ahead (lexer.extend more) _ _ plain nonempty aheadMore blanks, scannedMore]
    simp only [Except.map, column, settledMore]
    rfl

theorem not_ahead_of_text {lexer next : Lexer} {content : List Char}
    (plain : lexer.delimiters.Plain) (read : lexer.next? = some (.ok (.text content, next))) :
    ¬ Tag.Ahead lexer.delimiters lexer.cursor.rest := by
  rintro ⟨nonempty, leading, rest, ahead, blanks⟩
  rw [next?_of_ahead plain nonempty ahead blanks] at read
  cases scanned : Tag.scanBare lexer.delimiters
      (lexer.cursor.pass leading (lexer.delimiters.mark ++ rest)) with
  | error failure =>
    rw [scanned] at read
    cases read
  | ok pair =>
    rw [scanned] at read
    cases read

/-- A tag that comes next is no part of the text before it. -/
theorem prependText_of_ahead {lexer : Lexer} (plain : lexer.delimiters.Plain)
    (begins : Tag.Ahead lexer.delimiters lexer.cursor.rest) (content : List Char) :
    (lexer.collect []).prependText content = (lexer.collect []).cons (.text content) := by
  obtain ⟨nonempty, leading, rest, ahead, blanks⟩ := begins
  have read := next?_of_ahead plain nonempty ahead blanks
  cases scanned : Tag.scanBare lexer.delimiters
      (lexer.cursor.pass leading (lexer.delimiters.mark ++ rest)) with
  | error failure =>
    rw [scanned] at read
    rw [collect_of_error [] read]
    rfl
  | ok pair =>
    rw [scanned] at read
    rw [collect_of_read read]
    rfl

theorem next?_extend_of_absent {lexer : Lexer} {first : Char} {rest : List Char}
    (plain : lexer.delimiters.Plain) (ends : (first :: rest).getLast? = some '\n')
    (ahead : lexer.cursor.rest = first :: rest)
    (absent : ¬ Tag.Ahead lexer.delimiters (first :: rest)) (more : List Char) :
    ∃ back, first :: (rest ++ more) =
        Lexeme.literal lexer.delimiters.mark first (rest ++ more) ++ back ∧
      (lexer.extend more).next? = some (.ok
        (.text (Lexeme.literal lexer.delimiters.mark first (rest ++ more)), ⟨lexer.delimiters,
          lexer.cursor.pass (Lexeme.literal lexer.delimiters.mark first (rest ++ more)) back⟩)) := by
  apply @next?_of_absent (lexer.extend more)
  · simp [extend, ahead]
  · exact fun begins => absent (Tag.Ahead.of_append plain ends begins)

/-- Behind a literal text that reaches the cut comes a tag, or more of that text. -/
theorem collect_extend_text {lexer : Lexer} {first : Char} {rest : List Char}
    (plain : lexer.delimiters.Plain) (ends : (first :: rest).getLast? = some '\n')
    (ahead : lexer.cursor.rest = first :: rest)
    (absent : ¬ Tag.Ahead lexer.delimiters (first :: rest))
    (uncut : Text.splitAt? lexer.delimiters.mark rest = none) (more : List Char) :
    (lexer.extend more).collect [] =
      (collect ⟨lexer.delimiters, lexer.cursor.pass (first :: rest) more⟩ []).prependText
        (first :: rest) := by
  obtain ⟨back, split, read⟩ := next?_extend_of_absent plain ends ahead absent more
  -- The text ends at the cut in front of a tag or of nothing, and goes on in front of other text.
  by_cases begins : Tag.Ahead lexer.delimiters more
  · rw [Lexeme.literal_append_of_ahead plain ends uncut begins] at split read
    obtain rfl : more = back := @List.append_cancel_left _ (first :: rest) more back split
    rw [collect_of_read read]
    exact (@prependText_of_ahead ⟨lexer.delimiters, lexer.cursor.pass (first :: rest) more⟩
      plain begins (first :: rest)).symm
  · cases more with
    | nil =>
      rw [List.append_nil, Lexeme.literal_of_uncut uncut] at split read
      obtain rfl : back = [] := by simpa using split
      rw [collect_of_read read, collect_of_none [] (next?_eq_none_iff.2 rfl)]
      rfl
    | cons head tail =>
      obtain ⟨backAlone, splitAlone, readAlone⟩ := @next?_of_absent
        ⟨lexer.delimiters, lexer.cursor.pass (first :: rest) (head :: tail)⟩ head tail rfl begins
      rw [Lexeme.literal_append_of_absent plain ends uncut begins] at split read
      dsimp only at splitAlone readAlone
      obtain rfl : backAlone = back := by
        rw [List.append_assoc, ← List.cons_append, List.append_cancel_left_eq, splitAlone,
          List.append_cancel_left_eq] at split
        exact split
      rw [Cursor.pass_pass] at readAlone
      rw [collect_of_read read, collect_of_read readAlone]
      rfl

/-- A literal text of whole lines ends before a tag, or at the cut. -/
theorem next?_extend_text {lexer next : Lexer} {content : List Char}
    (plain : lexer.delimiters.Plain) (ends : lexer.cursor.rest.getLast? = some '\n')
    (read : lexer.next? = some (.ok (.text content, next))) (more : List Char) :
    (next.cursor.rest ≠ [] ∧
        (lexer.extend more).next? = some (.ok (.text content, next.extend more))) ∨
      next.cursor.rest = [] ∧ (lexer.extend more).collect [] =
        ((next.extend more).collect []).prependText content := by
  have absent := not_ahead_of_text plain read
  cases ahead : lexer.cursor.rest with
  | nil => simp [ahead] at ends
  | cons first rest =>
    rw [ahead] at absent ends
    obtain ⟨back, split, readAgain⟩ := next?_of_absent ahead absent
    rw [read] at readAgain
    cases readAgain
    cases cut : Text.splitAt? lexer.delimiters.mark rest with
    | some pair =>
      obtain ⟨before, after⟩ := pair
      have shorter : (Lexeme.literal lexer.delimiters.mark first rest).length <
          (first :: rest).length := Lexeme.length_literal_of_cut cut
      refine .inl ⟨?_, ?_⟩
      · intro none
        dsimp only [Cursor.pass] at none
        rw [none, List.append_nil] at split
        rw [← split] at shorter
        exact Nat.lt_irrefl _ shorter
      · obtain ⟨backMore, splitMore, readMore⟩ :=
          next?_extend_of_absent plain ends ahead absent more
        rw [Lexeme.literal_append_of_cut cut more] at splitMore readMore
        rw [← List.cons_append, split, List.append_assoc, List.append_cancel_left_eq] at splitMore
        rw [readMore, ← splitMore]
        rfl
    | none =>
      rw [Lexeme.literal_of_uncut cut] at split ⊢
      obtain rfl : back = [] := by simpa using split
      exact .inr ⟨rfl, collect_extend_text plain ends ahead absent cut more⟩

theorem delimiters_next? {lexer next : Lexer} {lexeme : Lexeme} (plain : lexer.delimiters.Plain)
    (read : lexer.next? = some (.ok (lexeme, next))) :
    next.delimiters = Lexeme.pairAfter lexer.delimiters [lexeme] := by
  have step := lexer.steps_next? plain
  rw [read] at step
  cases step with
  | text content rest nonempty ahead absent settled => rfl
  | tag leading rest bare settled after next nonempty ahead blanks scanned line =>
    obtain ⟨-, -, same, -, -⟩ := Tag.settle_inv (Tag.bare_of_scanBare scanned) line
    obtain ⟨parts, kind, -, -, rfl, -, -⟩ := Tag.scanBare_inv scanned
    rw [same]
    rfl

theorem endsLine_of_read {lexer next : Lexer} {lexeme : Lexeme}
    (ends : Text.EndsLine lexer.cursor.rest) (read : lexer.next? = some (.ok (lexeme, next))) :
    lexer.cursor.rest.getLast? = some '\n' ∧ Text.EndsLine next.cursor.rest := by
  obtain ⟨⟨split, -⟩, filled⟩ := lexer.passes_next? next lexeme read
  have newline : lexer.cursor.rest.getLast? = some '\n' := by
    apply ends.resolve_left
    intro none
    rw [none] at split
    exact filled (List.append_eq_nil_iff.1 split.symm).1
  refine ⟨newline, ?_⟩
  by_cases none : next.cursor.rest = []
  · exact .inl none
  · rw [split, List.getLast?_append_of_ne_nil _ none] at newline
    exact .inr newline

/-- The lexer behind all that is ahead, when other text follows. -/
def atEnd (lexer : Lexer) (more : List Char) : Lexer :=
  ⟨Lexeme.pairAfter lexer.delimiters (lexer.collect []).lexemes,
    ⟨lexer.cursor.position.after lexer.cursor.rest, more⟩⟩

theorem atEnd_of_read {lexer next : Lexer} {lexeme : Lexeme} (plain : lexer.delimiters.Plain)
    (read : lexer.next? = some (.ok (lexeme, next))) (more : List Char) :
    lexer.atEnd more = next.atEnd more := by
  obtain ⟨⟨split, reached⟩, -⟩ := lexer.passes_next? next lexeme read
  unfold atEnd
  rw [collect_of_read read, delimiters_next? plain read, split, Position.after_append, ← reached]
  unfold Lexeme.pairAfter
  rw [← List.foldl_append, ← Lexeme.bareTags_append, List.singleton_append]
  rfl

/-- Whole lines are read in the same way whatever follows them, and the rest is then read from the
beginning of its first line. -/
theorem collect_extend (lexer : Lexer) (plain : lexer.delimiters.Plain)
    (ends : Text.EndsLine lexer.cursor.rest) (complete : (lexer.collect []).failure = none)
    (more : List Char) :
    (lexer.extend more).collect [] =
      Lexing.behind (lexer.collect []).lexemes ((lexer.atEnd more).collect []) := by
  -- A literal text before the cut is the only lexeme that more text can change.
  induction lexer using stepwise with
  | ended lexer step =>
    have ended := next?_eq_none_iff.1 step
    unfold atEnd
    rw [collect_of_none [] step, ended]
    unfold extend
    rw [ended]
    rfl
  | failed lexer failure step =>
    rw [collect_of_error [] step] at complete
    cases complete
  | read lexer next lexeme step ih =>
    obtain ⟨newline, endsNext⟩ := endsLine_of_read ends step
    have plainNext : next.delimiters.Plain := by
      have steps := lexer.steps_next? plain
      rw [step] at steps
      exact steps.plain plain
    rw [atEnd_of_read plain step]
    rw [collect_of_read step] at complete ⊢
    have later := ih plainNext endsNext complete
    dsimp only [Lexing.cons]
    cases lexeme with
    | tag tag =>
      rw [collect_of_read (next?_extend_tag plain newline step more), later,
        Lexing.behind_cons _ (.inl ⟨tag, rfl⟩)]
    | text content =>
      rcases next?_extend_text plain newline step more with ⟨goesOn, read⟩ | ⟨ended, whole⟩
      · have filled : (next.collect []).lexemes ≠ [] := by
          intro none
          have source := (next.runs_collect plainNext).source complete
          rw [none] at source
          exact goesOn source.symm
        rw [collect_of_read read, later, Lexing.behind_cons _ (.inr filled)]
      · unfold atEnd
        rw [whole, collect_of_none [] (next?_eq_none_iff.2 ended)]
        unfold extend
        rw [ended]
        rfl

end Lexer

end Mustache
