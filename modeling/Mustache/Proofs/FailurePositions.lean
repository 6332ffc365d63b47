import Mustache.Proofs.Concatenation

/-!
# Places of tags and of errors

Whatever is read is read at the position that the text before it leads to. So tags and errors lie at
places of the text, and the line of such a place is the text around it between two line breaks.
-/

namespace Mustache

set_option autoImplicit false

/-- The position is that of a place in the text. -/
def Position.LiesIn (position : Position) (source : List Char) : Prop :=
  ∃ front back, source = front ++ back ∧ position = start.after front

def Cursor.StandsIn (cursor : Cursor) (source : List Char) : Prop :=
  ∃ front, source = front ++ cursor.rest ∧ cursor.position = Position.start.after front

namespace Cursor

variable {cursor next : Cursor} {source consumed : List Char}

theorem StandsIn.liesIn (stands : cursor.StandsIn source) : cursor.position.LiesIn source := by
  obtain ⟨front, split, reached⟩ := stands
  exact ⟨front, cursor.rest, split, reached⟩

theorem StandsIn.passes (stands : cursor.StandsIn source) (passes : cursor.Passes consumed next) :
    next.StandsIn source := by
  obtain ⟨front, split, reached⟩ := stands
  refine ⟨front ++ consumed, ?_, ?_⟩
  · rw [split, passes.1, List.append_assoc]
  · rw [passes.2, reached, Position.after_append]

theorem standsIn_ofText (text : List Char) : (ofText text).StandsIn text := ⟨[], rfl, rfl⟩

end Cursor

namespace Tag

variable {delimiters : Delimiters} {source : List Char}

/-- A tag that cannot be read is blamed on its open delimiter or on where its content should be. -/
theorem liesIn_scanInside {atLineStart : Bool} {leading : List Char} {position : Position}
    {inside : Cursor} {failure : Failure} (stands : inside.StandsIn source)
    (begins : position.LiesIn source)
    (read : scanInside delimiters atLineStart leading position inside = .error failure) :
    failure.position.LiesIn source := by
  unfold scanInside at read
  dsimp only at read
  split at read
  · cases read
    exact begins
  · rename_i content found
    have atContent := ((stands.passes (inside.passes_takeOne fun character =>
      (Sigil.ofChar? character).isSome)).passes (Cursor.passes_takeWhile _ Text.isTagSpace)).passes
        (passes_content? _ _ _ _ found)
    split at read
    · cases read
      exact atContent.liesIn
    · split at read
      · cases read
        exact begins
      · split at read
        · cases read
          exact begins
        · split at read <;> cases read

theorem liesIn_scan? {cursor : Cursor} {failure : Failure} (stands : cursor.StandsIn source)
    (read : scan? delimiters cursor = some (.error failure)) :
    failure.position.LiesIn source := by
  obtain ⟨inside, entered, scanned⟩ := Option.map_eq_some_iff.1 read
  have atTag := stands.passes (cursor.passes_takeWhile Text.isBlank)
  have passes := (Cursor.passes_literal? _ _ _ entered).1
  exact liesIn_scanInside (atTag.passes passes) atTag.liesIn scanned

/-- A tag knows where it begins and which delimiters it is written with. -/
theorem origin_scanInside {atLineStart : Bool} {leading : List Char} {position : Position}
    {inside next : Cursor} {tag : Tag}
    (read : scanInside delimiters atLineStart leading position inside = .ok (tag, next)) :
    tag.position = position ∧ tag.delimiters = delimiters := by
  unfold scanInside at read
  dsimp only at read
  split at read
  · cases read
  · split at read
    · cases read
    · split at read
      · cases read
      · split at read
        · cases read
        · split at read
          · cases read
            exact ⟨rfl, rfl⟩
          · cases read
            exact ⟨rfl, rfl⟩

theorem position_scan? {cursor next : Cursor} {tag : Tag} (stands : cursor.StandsIn source)
    (read : scan? delimiters cursor = some (.ok (tag, next))) : tag.position.LiesIn source := by
  obtain ⟨inside, -, scanned⟩ := Option.map_eq_some_iff.1 read
  rw [(origin_scanInside scanned).1]
  exact (stands.passes (cursor.passes_takeWhile Text.isBlank)).liesIn

end Tag

namespace Lexeme

/-- A lexeme whose tag, if it is one, lies in the text. -/
def LiesIn (source : List Char) : Lexeme → Prop
  | .text _ => True
  | .tag found => found.position.LiesIn source

end Lexeme

namespace Lexer

/-- What holds of each lexeme that is read from good states holds of all that are read. -/
theorem forall_collect (good : Lexer → Prop) (holds : Lexeme → Prop) (blamed : Failure → Prop)
    (read : ∀ (lexer next : Lexer) (lexeme : Lexeme), good lexer →
      lexer.next? = some (.ok (lexeme, next)) → holds lexeme ∧ good next)
    (failed : ∀ (lexer : Lexer) (failure : Failure), good lexer →
      lexer.next? = some (.error failure) → blamed failure)
    (lexer : Lexer) (start : good lexer) :
    (∀ lexeme ∈ (lexer.collect []).lexemes, holds lexeme) ∧
      ∀ failure, (lexer.collect []).failure = some failure → blamed failure := by
  induction lexer using stepwise with
  | ended lexer step =>
    rw [collect_of_none [] step]
    exact ⟨by simp, by simp⟩
  | failed lexer failure step =>
    rw [collect_of_error [] step]
    refine ⟨by simp, ?_⟩
    intro other same
    cases same
    exact failed lexer failure start step
  | read lexer next lexeme step ih =>
    obtain ⟨first, kept⟩ := read lexer next lexeme start step
    obtain ⟨others, blame⟩ := ih kept
    rw [collect_of_ok [] step, collect_eq_cons]
    refine ⟨?_, blame⟩
    intro other inside
    rcases List.mem_cons.1 inside with rfl | later
    · exact first
    · exact others other later

theorem liesIn_next? {lexer next : Lexer} {lexeme : Lexeme} {source : List Char}
    (stands : lexer.cursor.StandsIn source) (read : lexer.next? = some (.ok (lexeme, next))) :
    lexeme.LiesIn source ∧ next.cursor.StandsIn source := by
  refine ⟨?_, stands.passes (lexer.passes_next? next lexeme read).1⟩
  unfold next? at read
  split at read
  · cases read
  · split at read
    · cases read
    · rename_i tag cursor scanned
      cases read
      exact Tag.position_scan? stands scanned
    · cases read
      trivial

theorem liesIn_next?_error {lexer : Lexer} {failure : Failure} {source : List Char}
    (stands : lexer.cursor.StandsIn source) (read : lexer.next? = some (.error failure)) :
    failure.position.LiesIn source := by
  unfold next? at read
  split at read
  · cases read
  · split at read
    · rename_i reason scanned
      cases read
      exact Tag.liesIn_scan? stands scanned
    · cases read
    · cases read

end Lexer

/-- The first violation is blamed on a tag, or on what could not be read. -/
theorem Tagging.position_verdictFrom (holds : Position → Prop) {failure : Option Failure}
    (last : ∀ violation, failure = some violation → holds violation.position)
    {sections : List (List Char × Position)} (opened : ∀ entry ∈ sections, holds entry.2)
    {tags : List Tag} (met : ∀ tag ∈ tags, holds tag.position) {violation : Failure}
    (violated : verdictFrom failure sections tags = some violation) : holds violation.position := by
  induction tags generalizing sections with
  | nil =>
    cases sections with
    | nil => exact last violation violated
    | cons entry sections =>
      cases failure with
      | none =>
        cases violated
        exact opened entry List.mem_cons_self
      | some reason =>
        cases violated
        exact last _ rfl
  | cons tag tags ih =>
    have later : ∀ other ∈ tags, holds other.position :=
      fun other inside => met other (List.mem_cons_of_mem _ inside)
    have here := met tag List.mem_cons_self
    rcases TreeBuilder.exists_node_or tag with ⟨node, known⟩ | ⟨inverted, opens⟩ | closes
    · rw [verdictFrom_leaf _ _ _ known] at violated
      exact ih opened later violated
    · rw [verdictFrom_open _ _ _ opens] at violated
      refine ih ?_ later violated
      intro entry inside
      rcases List.mem_cons.1 inside with rfl | outer
      · exact here
      · exact opened entry outer
    · cases sections with
      | nil =>
        rw [verdictFrom_close_nil _ _ closes] at violated
        cases violated
        exact here
      | cons entry outer =>
        obtain ⟨name, position⟩ := entry
        rw [verdictFrom_close_cons _ _ _ closes] at violated
        split at violated
        · exact ih (fun entry inside => opened entry (List.mem_cons_of_mem _ inside)) later violated
        · cases violated
          exact opened _ List.mem_cons_self

theorem Lexing.liesIn_toNodes {delimiters : Delimiters} {source : List Char} {failure : Failure}
    (failed : (Lexing.ofText delimiters source).toNodes = .error failure) :
    failure.position.LiesIn source := by
  obtain ⟨lexemes, last⟩ := Lexer.forall_collect (fun lexer => lexer.cursor.StandsIn source)
    (Lexeme.LiesIn source) (fun violation => violation.position.LiesIn source)
    (fun _ _ _ stands read => Lexer.liesIn_next? stands read)
    (fun _ _ stands read => Lexer.liesIn_next?_error stands read)
    (Lexer.ofText delimiters source) (Cursor.standsIn_ofText source)
  have violated := (Lexing.toNodes_eq_error_iff _ failure).1 failed
  refine Tagging.position_verdictFrom (fun position => position.LiesIn source) last
    (by simp) ?_ violated
  intro tag inside
  obtain ⟨lexeme, among, same⟩ := List.mem_filterMap.1 inside
  cases lexeme with
  | text content => cases same
  | tag found =>
    cases same
    exact lexemes _ among

namespace Text

/-- A text is whole lines and what stands on the line behind them. -/
theorem exists_lines (text : List Char) :
    ∃ lines current, text = lines ++ current ∧ EndsLine lines ∧ '\n' ∉ current := by
  induction text using List.reverseRecOn with
  | nil => exact ⟨[], [], rfl, .inl rfl, by simp⟩
  | append_singleton front last ih =>
    by_cases newline : last = '\n'
    · exact ⟨front ++ [last], [], by simp, .inr (by simp [newline]), by simp⟩
    · obtain ⟨lines, current, rfl, ends, unbroken⟩ := ih
      refine ⟨lines, current ++ [last], by simp, ends, ?_⟩
      simp [unbroken, Ne.symm newline]

/-- A line goes on behind what stands on it up to some place. -/
theorem takeWhile_line {before : List Char} (unbroken : '\n' ∉ before) (behind : List Char) :
    (before ++ behind).takeWhile (· != '\n') = before ++ behind.takeWhile (· != '\n') := by
  rw [List.takeWhile_append_of_pos]
  intro character inside
  exact bne_iff_ne.2 fun newline => unbroken (newline ▸ inside)

theorem notMem_line {before : List Char} (unbroken : '\n' ∉ before) (behind : List Char) :
    '\n' ∉ before ++ behind.takeWhile (· != '\n') := by
  rw [List.mem_append]
  rintro (inside | inside)
  · exact unbroken inside
  · have kept := List.mem_takeWhile_imp inside
    simp at kept

/-- A line ends with the text or at a line break. -/
theorem dropWhile_line (text : List Char) :
    text.dropWhile (· != '\n') = [] ∨ (text.dropWhile (· != '\n')).head? = some '\n' := by
  cases behind : text.dropWhile (· != '\n') with
  | nil => exact .inl rfl
  | cons first rest =>
    have stopped := List.head?_dropWhile_not (· != '\n') text
    rw [behind] at stopped
    exact .inr (by simpa using stopped)

end Text

/-- On the last line of a text, the line starts behind the lines before. -/
theorem Position.lineStart_after {lines current : List Char} (ends : Text.EndsLine lines)
    (unbroken : '\n' ∉ current) :
    (start.after (lines ++ current)).lineStart = Text.byteLength lines := by
  rw [after_append, after_start_of_endsLine ends]
  have kept (position : Position) : (position.after current).lineStart = position.lineStart := by
    induction current generalizing position with
    | nil => rfl
    | cons character rest ih =>
      rw [List.mem_cons, not_or] at unbroken
      rw [after_cons, ih unbroken.2]
      simp [next, Ne.symm unbroken.1]
  rw [kept]
  simp [moved, start]

end Mustache
