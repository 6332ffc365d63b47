import Mathlib
import Mustache.Parse
import Mustache.Proofs.LexedTags

/-!
# Reading always gets on

Read turn by turn, a template is a tag if one begins at the cursor, and otherwise the text up to the
next open delimiter, less the blanks that a line begins with before it. Neither scanner consumes
anything by itself: a missing tag leaves the cursor in place, and the text may be empty. Together
they always consume something, as long as the open delimiter does not begin with a blank itself.
-/

namespace Mustache

set_option autoImplicit false

/-- The opening text does not begin with a blank; it may be empty. -/
def Delimiters.Visible (delimiters : Delimiters) : Prop :=
  Text.StopsAt Text.isBlank delimiters.opening.toList

instance (delimiters : Delimiters) : Decidable delimiters.Visible :=
  decidable_of_iff (delimiters.opening.toList.head?.all fun first => !Text.isBlank first) (by
    unfold Delimiters.Visible Text.StopsAt
    cases delimiters.opening.toList.head? <;> simp)

namespace Lexer

/-- Reads a tag and the blanks before it. If no tag begins there, nothing is consumed. -/
def scanTag (lexer : Lexer) : Except Failure (Option (Tag × Lexer)) :=
  let leading := lexer.cursor.takeWhile Text.isBlank
  match leading.2.literal? lexer.delimiters.opening.toList with
  | none => .ok none
  | some inside =>
    (Tag.scanInside lexer.delimiters lexer.cursor.atLineStart leading.1 leading.2.position
      inside).map fun read => some (read.1, ⟨read.1.delimitersAfter, read.2⟩)

/-- Reads text up to the next open delimiter. It stops in front of the blanks before that if they
are the first characters of their line, so it may stop where it began. -/
def scanText (lexer : Lexer) : List Char × Lexer :=
  let text :=
    match lexer.cursor.until? lexer.delimiters.opening.toList with
    | none => lexer.cursor.takeRest
    | some (before, _) =>
      let kept := Text.dropBlanksAtEnd before
      let beginsLine := (kept.getLast?.map (· == '\n')).getD lexer.cursor.atLineStart
      lexer.cursor.take (if beginsLine then kept else before).length
  (text.1, ⟨lexer.delimiters, text.2⟩)

/-- One turn of reading: a tag, or text if no tag begins at the cursor. -/
def turn (lexer : Lexer) : Except Failure (Lexeme × Lexer) :=
  lexer.scanTag.map fun scanned =>
    match scanned with
    | some (tag, next) => (.tag tag, next)
    | none => (.text lexer.scanText.1, lexer.scanText.2)

end Lexer

/-- A template that is being read, and the part of its tree built so far. -/
structure Reader where
  lexer : Lexer
  builder : TreeBuilder

namespace Reader

def ofText (delimiters : Delimiters) (text : List Char) : Reader :=
  ⟨Lexer.ofText delimiters text, TreeBuilder.empty⟩

/-- One turn: a lexeme is read and added to the tree. -/
def turn (reader : Reader) : Except Failure Reader :=
  match reader.lexer.turn with
  | .error failure => .error failure
  | .ok (lexeme, next) => (reader.builder.add lexeme).map (Reader.mk next)

/-- Takes turns up to the end of the text or the first failure; nothing if more than `turns` would
be needed. -/
def run (reader : Reader) (turns : Nat) : Option (Except Failure (List Node)) :=
  if reader.lexer.cursor.rest.isEmpty then some reader.builder.finish
  else
    match turns with
    | 0 => none
    | turns + 1 =>
      match reader.turn with
      | .error failure => some (.error failure)
      | .ok next => next.run turns

end Reader

namespace Delimiters

theorem Visible.mark_eq {delimiters : Delimiters} (visible : delimiters.Visible) :
    delimiters.mark = delimiters.opening.toList := by
  unfold mark
  unfold Visible at visible
  cases known : delimiters.opening.toList with
  | nil => rfl
  | cons first rest =>
    rw [known, Text.stopsAt_cons] at visible
    simp [visible]

theorem Plain.visible {delimiters : Delimiters} (plain : delimiters.Plain) :
    delimiters.Visible := by
  have stops := plain.stopsAt_mark Text.isBlank fun _ => Text.isSpace_of_isBlank
  rwa [plain.mark_eq] at stops

end Delimiters

/-- A change of delimiters always names an opening text that can be seen. -/
theorem Tag.visible_delimitersAfter {delimiters : Delimiters} (visible : delimiters.Visible)
    {atLineStart : Bool} {leading : List Char} {position : Position} {inside next : Cursor}
    {tag : Tag}
    (read : scanInside delimiters atLineStart leading position inside = .ok (tag, next)) :
    tag.delimitersAfter.Visible := by
  rw [scanInside_eq_map_settle] at read
  cases bareRead : scanInside delimiters false [] position inside with
  | error failure =>
    rw [bareRead] at read
    cases read
  | ok pair =>
    obtain ⟨bare, after⟩ := pair
    rw [bareRead] at read
    obtain ⟨parts, kind, -, known, -, rfl⟩ := exists_parts bareRead
    have settled : (parts.toTag delimiters position kind).settle atLineStart leading after =
        (tag, next) := Except.ok.inj read
    obtain ⟨-, -, same, -, -⟩ := settle_inv rfl settled
    rw [same]
    unfold delimitersAfter
    dsimp only [TagParts.toTag]
    cases kind with
    | setDelimiters pair =>
      unfold TagKind.of? at known
      split at known <;> try cases known
      obtain ⟨found, parsed, change⟩ := Option.map_eq_some_iff.1 known
      cases change
      exact (Delimiters.plain_of_parse? parsed).visible
    | _ => exact visible

namespace Lexer

variable {lexer : Lexer}

/-- If only blanks stood before the next open delimiter, a tag would begin at the cursor. -/
theorem scanText_eq (visible : lexer.delimiters.Visible) {first : Char} {rest : List Char}
    (ahead : lexer.cursor.rest = first :: rest)
    (absent : ¬ Tag.Ahead lexer.delimiters (first :: rest)) :
    lexer.scanText =
      ((lexer.cursor.take (Lexeme.literal lexer.delimiters.mark first rest).length).1,
        ⟨lexer.delimiters,
          (lexer.cursor.take (Lexeme.literal lexer.delimiters.mark first rest).length).2⟩) := by
  have whole : lexer.cursor.takeRest = lexer.cursor.take (first :: rest).length := by
    unfold Cursor.takeRest Cursor.take
    rw [ahead, List.take_length, List.drop_length]
  unfold scanText Lexeme.literal Cursor.until?
  rw [← visible.mark_eq, ahead, whole]
  by_cases empty : lexer.delimiters.mark = []
  · rw [empty]
    rfl
  · rcases Text.splitAt?_cons empty first rest with ⟨⟨after, begins⟩, -⟩ | ⟨-, cut⟩
    · exact absurd ⟨empty, [], after, begins.symm, by simp⟩ absent
    · rw [cut]
      cases found : Text.splitAt? lexer.delimiters.mark rest with
      | none => rfl
      | some pair =>
        obtain ⟨before, behind⟩ := pair
        obtain ⟨split, ⟨after, begins⟩, -⟩ := (Text.splitAt?_eq_some_iff empty).1 found
        have filled : Text.dropBlanksAtEnd (first :: before) ≠ [] := by
          intro none
          have blank := Text.dropBlanksAtEnd_append (first :: before)
          rw [none, List.nil_append] at blank
          apply absent
          refine ⟨empty, first :: before, after, by rw [begins, split, List.cons_append], ?_⟩
          rw [← blank]
          exact Text.isBlank_of_mem_blanksAtEnd
        obtain ⟨last, ends⟩ := Option.ne_none_iff_exists'.1 (mt List.getLast?_eq_none_iff.1 filled)
        have unfolded : Lexeme.withoutIndentation (first :: before) =
            if (Text.dropBlanksAtEnd (first :: before)).getLast? = some '\n'
            then Text.dropBlanksAtEnd (first :: before) else first :: before := rfl
        simp only [Option.map_some, unfolded, ends, Option.getD_some, beq_iff_eq,
          Option.some.injEq]

/-- All that reading a tag can come to. -/
theorem scanTag_cases (visible : lexer.delimiters.Visible) :
    (Tag.scan? lexer.delimiters lexer.cursor = none ∧ lexer.scanTag = .ok none) ∨
    (∃ failure, Tag.scan? lexer.delimiters lexer.cursor = some (.error failure) ∧
      lexer.scanTag = .error failure) ∨
    ∃ tag next, Tag.scan? lexer.delimiters lexer.cursor = some (.ok (tag, next)) ∧
      lexer.scanTag = .ok (some (tag, ⟨tag.delimitersAfter, next⟩)) ∧
      tag.delimitersAfter.Visible := by
  unfold Tag.scan? scanTag
  dsimp only
  rw [visible.mark_eq]
  cases (lexer.cursor.takeWhile Text.isBlank).2.literal? lexer.delimiters.opening.toList with
  | none => exact .inl ⟨rfl, rfl⟩
  | some inside =>
    simp only [Option.map_some]
    cases read : Tag.scanInside lexer.delimiters lexer.cursor.atLineStart _ _ inside with
    | error failure => exact .inr (.inl ⟨failure, rfl, rfl⟩)
    | ok pair =>
      exact .inr (.inr ⟨pair.1, pair.2, rfl, rfl, Tag.visible_delimitersAfter visible read⟩)

/-- A tag that blanks alone separate from the cursor is not missed. -/
theorem not_ahead_of_scan? (visible : lexer.delimiters.Visible)
    (missed : Tag.scan? lexer.delimiters lexer.cursor = none) :
    ¬ Tag.Ahead lexer.delimiters lexer.cursor.rest := by
  rintro ⟨marked, leading, behind, split, blanks⟩
  have stops : Text.StopsAt Text.isBlank (lexer.delimiters.mark ++ behind) := by
    rw [visible.mark_eq] at marked ⊢
    exact Text.StopsAt.append visible marked behind
  unfold Tag.scan? at missed
  rw [Cursor.takeWhile_eq split blanks stops] at missed
  dsimp only at missed
  rw [Cursor.literal?_eq marked rfl] at missed
  cases missed

/-- The two scanners read what the lexer reads. -/
theorem next?_eq_turn (visible : lexer.delimiters.Visible) (nonempty : lexer.cursor.rest ≠ []) :
    lexer.next? = some lexer.turn := by
  obtain ⟨first, rest, ahead⟩ := List.exists_cons_of_ne_nil nonempty
  unfold next? turn
  rw [ahead]
  rcases scanTag_cases visible with
    ⟨missed, scanned⟩ | ⟨failure, found, scanned⟩ | ⟨tag, next, found, scanned, -⟩
  · have absent := not_ahead_of_scan? visible missed
    rw [ahead] at absent
    rw [missed, scanned, scanText_eq visible ahead absent]
    rfl
  · rw [found, scanned]
    rfl
  · rw [found, scanned]
    rfl

/-- A turn fails or consumes at least one character. -/
theorem turn_cases (visible : lexer.delimiters.Visible) (nonempty : lexer.cursor.rest ≠ []) :
    (∃ failure, lexer.turn = .error failure) ∨
      ∃ lexeme next, lexer.turn = .ok (lexeme, next) ∧
        lexer.cursor.Passes lexeme.source next.cursor ∧ lexeme.source ≠ [] ∧
        next.delimiters.Visible := by
  cases taken : lexer.turn with
  | error failure => exact .inl ⟨failure, rfl⟩
  | ok pair =>
    obtain ⟨lexeme, next⟩ := pair
    have read : lexer.next? = some (.ok (lexeme, next)) := by
      rw [next?_eq_turn visible nonempty, taken]
    obtain ⟨passes, filled⟩ := lexer.passes_next? next lexeme read
    refine .inr ⟨lexeme, next, rfl, passes, filled, ?_⟩
    unfold turn at taken
    rcases scanTag_cases visible with
      ⟨-, scanned⟩ | ⟨failure, -, scanned⟩ | ⟨tag, after, -, scanned, visibleAfter⟩
    · rw [scanned] at taken
      cases taken
      exact visible
    · rw [scanned] at taken
      cases taken
    · rw [scanned] at taken
      cases taken
      exact visibleAfter

end Lexer

namespace Reader

/-- What is left to be done once the rest of a text has been cut into lexemes. -/
def complete (builder : TreeBuilder) (lexing : Lexing) : Except Failure (List Node) :=
  match builder.addAll lexing.lexemes with
  | .error failure => .error failure
  | .ok last =>
    match lexing.failure with
    | some failure => .error failure
    | none => last.finish

theorem complete_cons (builder : TreeBuilder) (lexeme : Lexeme) (lexing : Lexing) :
    complete builder (lexing.cons lexeme) =
      match builder.add lexeme with
      | .error failure => .error failure
      | .ok next => complete next lexing := by
  unfold complete Lexing.cons
  rw [TreeBuilder.addAll]
  cases builder.add lexeme <;> rfl

/-- As many turns as there are characters left are always enough. -/
theorem run_eq (reader : Reader) (visible : reader.lexer.delimiters.Visible) (turns : Nat)
    (enough : reader.lexer.cursor.rest.length ≤ turns) :
    reader.run turns = some (complete reader.builder (reader.lexer.collect [])) := by
  -- Each turn takes at least one character off the rest, so the bound stays good for the next one.
  induction turns generalizing reader with
  | zero =>
    have ended : reader.lexer.cursor.rest = [] := List.length_eq_zero_iff.1 (by omega)
    rw [run, ended, Lexer.collect_of_none [] (Lexer.next?_eq_none_iff.2 ended)]
    rfl
  | succ turns ih =>
    by_cases ended : reader.lexer.cursor.rest = []
    · rw [run, ended, Lexer.collect_of_none [] (Lexer.next?_eq_none_iff.2 ended)]
      rfl
    · have filled : reader.lexer.cursor.rest.isEmpty = false := by simpa using ended
      have read := Lexer.next?_eq_turn visible ended
      rw [run, filled, turn]
      rcases Lexer.turn_cases visible ended with
        ⟨failure, taken⟩ | ⟨lexeme, next, taken, passes, consumed, visibleNext⟩
      · rw [taken] at read
        rw [taken, Lexer.collect_of_error [] read]
        rfl
      · rw [taken] at read
        rw [taken, Lexer.collect_of_ok [] read, Lexer.collect_eq_cons]
        change _ = some (complete reader.builder ((next.collect []).cons lexeme))
        rw [complete_cons]
        dsimp only
        cases added : reader.builder.add lexeme with
        | error failure => rfl
        | ok builder =>
          have sizes := congrArg List.length passes.1
          have positive := List.length_pos_iff.2 consumed
          rw [List.length_append] at sizes
          apply ih ⟨next, builder⟩ visibleNext
          dsimp only
          omega

end Reader

/-- Reading always gets on. A turn at any place of any text fails or consumes at least one byte, and
leaves delimiters under which that holds again; so the turns come to an end, and what they come to
is the tree or the error of the template. -/
theorem parse_progress (delimiters : Delimiters) (visible : delimiters.Visible)
    (source : String) :
    (∀ reader : Reader, reader.lexer.delimiters.Visible → reader.lexer.cursor.rest ≠ [] →
      (∃ failure, reader.turn = .error failure) ∨
        ∃ next consumed, reader.turn = .ok next ∧
          reader.lexer.cursor.Passes consumed next.lexer.cursor ∧
          0 < Text.byteLength consumed ∧ next.lexer.delimiters.Visible) ∧
    ∃ outcome, (Reader.ofText delimiters source.toList).run source.toList.length = some outcome ∧
      parse delimiters source =
        (outcome.map Node.sequence).mapError fun failure => failure.report source := by
  refine ⟨?_, ?_⟩
  · intro reader seen nonempty
    unfold Reader.turn
    rcases Lexer.turn_cases seen nonempty with
      ⟨failure, taken⟩ | ⟨lexeme, next, taken, passes, consumed, visibleNext⟩
    · exact .inl ⟨failure, by rw [taken]⟩
    · rw [taken]
      dsimp only
      cases added : reader.builder.add lexeme with
      | error failure => exact .inl ⟨failure, rfl⟩
      | ok builder =>
        have positive := List.length_pos_iff.2 consumed
        have bytes := Text.length_le_byteLength lexeme.source
        exact .inr ⟨⟨next, builder⟩, lexeme.source, rfl, passes, by omega, visibleNext⟩
  · refine ⟨_, Reader.run_eq (Reader.ofText delimiters source.toList) visible _ (Nat.le_refl _), ?_⟩
    have same : Reader.complete TreeBuilder.empty (Lexing.ofText delimiters source.toList) =
        (Lexing.ofText delimiters source.toList).toNodes := rfl
    change _ = ((Reader.complete TreeBuilder.empty
      (Lexing.ofText delimiters source.toList)).map _).mapError _
    rw [same, parse]
    cases (Lexing.ofText delimiters source.toList).toNodes <;> rfl

theorem parse_progress_change :
    (⟨"<", ">"⟩ : Delimiters).Visible ∧
      (Reader.ofText ⟨"<", ">"⟩ "a\n <=% %=>\n%b%".toList).run
          "a\n <=% %=>\n%b%".toList.length =
        some (.ok [.text "a\n", .delimiters ⟨"%", "%"⟩ ⟨3, 2, 1, 1⟩,
          .escaped ⟨["b"]⟩ ⟨11, 11, 2, 0⟩]) := by
  have visible : (⟨"<", ">"⟩ : Delimiters).Visible := by decide
  refine ⟨visible, ?_⟩
  obtain ⟨outcome, ended, same⟩ :=
    (parse_progress ⟨"<", ">"⟩ visible "a\n <=% %=>\n%b%").2
  have parsed : parse ⟨"<", ">"⟩ "a\n <=% %=>\n%b%" =
      .ok (.sequence [.text "a\n", .delimiters ⟨"%", "%"⟩ ⟨3, 2, 1, 1⟩,
        .escaped ⟨["b"]⟩ ⟨11, 11, 2, 0⟩]) := by cbv
  rw [parsed] at same
  rw [ended]
  cases outcome with
  | error failure => cases same
  | ok nodes =>
    cases same
    rfl

/-- A delimiter that begins with a blank stalls the reader in front of it. -/
example : (Lexer.ofText ⟨" <", ">"⟩ " <a>".toList).turn =
    .ok (.text [], Lexer.ofText ⟨" <", ">"⟩ " <a>".toList) := by
  cbv

end Mustache
