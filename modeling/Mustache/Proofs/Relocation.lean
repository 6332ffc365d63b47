import Mustache.Proofs.LexedTags
import Mustache.Proofs.Verdict

/-!
# Texts further on

A text that begins a line of a longer text is read there as it is read alone, with all positions
moved by the bytes and the lines before it. Columns stay, and they alone decide where a line begins.
-/

namespace Mustache

set_option autoImplicit false

variable (bytes lines : Nat)

/-- The position `bytes` bytes and `lines` whole lines further on. -/
def Position.moved (position : Position) : Position :=
  ⟨position.offset + bytes, position.lineStart + bytes, position.line + lines, position.column⟩

def Cursor.moved (cursor : Cursor) : Cursor :=
  ⟨cursor.position.moved bytes lines, cursor.rest⟩

def Failure.moved (failure : Failure) : Failure :=
  ⟨failure.cause, failure.position.moved bytes lines⟩

def ParseError.moved (error : ParseError) : ParseError :=
  { error with position := error.position.moved bytes lines }

def Tag.moved (tag : Tag) : Tag := { tag with position := tag.position.moved bytes lines }

def Lexeme.moved : Lexeme → Lexeme
  | .text content => .text content
  | .tag found => .tag (Tag.moved bytes lines found)

def Lexer.moved (lexer : Lexer) : Lexer := ⟨lexer.delimiters, lexer.cursor.moved bytes lines⟩

def Lexing.moved (lexing : Lexing) : Lexing :=
  ⟨lexing.lexemes.map (Lexeme.moved bytes lines), lexing.failure.map (Failure.moved bytes lines)⟩

mutual

/-- The node with all its positions moved. -/
def Node.moved : Node → Node
  | .sequence children => .sequence (Node.movedAll children)
  | .text content => .text content
  | .escaped path position => .escaped path (position.moved bytes lines)
  | .unescaped path position => .unescaped path (position.moved bytes lines)
  | .block path body raw pair position =>
    .block path (Node.movedAll body) raw pair (position.moved bytes lines)
  | .inverted path body position =>
    .inverted path (Node.movedAll body) (position.moved bytes lines)
  | .partialTag name indentation position =>
    .partialTag name indentation (position.moved bytes lines)
  | .comment content position => .comment content (position.moved bytes lines)
  | .delimiters pair position => .delimiters pair (position.moved bytes lines)

def Node.movedAll : List Node → List Node
  | [] => []
  | first :: rest => first.moved :: Node.movedAll rest

end

namespace Position

theorem after_moved (position : Position) (text : List Char) :
    (position.moved bytes lines).after text = (position.after text).moved bytes lines := by
  induction text generalizing position with
  | nil => rfl
  | cons character rest ih =>
    have step : (position.moved bytes lines).next character =
        (position.next character).moved bytes lines := by
      by_cases newline : character = '\n'
      · simp only [next, moved, newline, if_true, Position.mk.injEq, and_true]
        omega
      · simp only [next, moved, newline, if_false, Position.mk.injEq, and_true]
        omega
    rw [after_cons, after_cons, step, ih]

theorem line_after (position : Position) (text : List Char) :
    (position.after text).line = position.line + text.count '\n' := by
  induction text generalizing position with
  | nil => rfl
  | cons character rest ih =>
    rw [after_cons, ih]
    by_cases newline : character = '\n'
    · simp only [next, newline, if_true, List.count_cons_self]
      omega
    · rw [List.count_cons_of_ne newline]
      simp [next, newline]

/-- Behind whole lines, a position is that of their end. -/
theorem after_start_of_endsLine {text : List Char} (ends : Text.EndsLine text) :
    start.after text = start.moved (Text.byteLength text) (text.count '\n') := by
  have column := (column_after_start text).2 ends
  have offset := offset_after start text
  have line := line_after start text
  have split := offset_eq_after start text rfl
  cases reached : start.after text with
  | mk o s l c =>
    rw [reached] at column offset line split
    simp only [start, moved, Nat.zero_add, Position.mk.injEq] at *
    omega

end Position

namespace Cursor

variable (cursor : Cursor)

theorem pass_moved (consumed rest : List Char) :
    (cursor.moved bytes lines).pass consumed rest = (cursor.pass consumed rest).moved bytes lines :=
  congrArg (Cursor.mk · rest) (Position.after_moved bytes lines cursor.position consumed)

theorem takeWhile_moved (accept : Char → Bool) :
    (cursor.moved bytes lines).takeWhile accept =
      ((cursor.takeWhile accept).1, (cursor.takeWhile accept).2.moved bytes lines) :=
  congrArg (Prod.mk _) (pass_moved bytes lines cursor _ _)

theorem take_moved (count : Nat) :
    (cursor.moved bytes lines).take count =
      ((cursor.take count).1, (cursor.take count).2.moved bytes lines) :=
  congrArg (Prod.mk _) (pass_moved bytes lines cursor _ _)

theorem takeOne_moved (accept : Char → Bool) :
    (cursor.moved bytes lines).takeOne accept =
      ((cursor.takeOne accept).1, (cursor.takeOne accept).2.moved bytes lines) := by
  have same : (cursor.moved bytes lines).rest = cursor.rest := rfl
  unfold takeOne
  rw [same]
  split
  · rfl
  · split
    · rw [pass_moved]
    · rfl

theorem takeLineBreak_moved :
    (cursor.moved bytes lines).takeLineBreak =
      (cursor.takeLineBreak.1, cursor.takeLineBreak.2.moved bytes lines) := by
  have same : (cursor.moved bytes lines).rest = cursor.rest := rfl
  unfold takeLineBreak
  rw [same]
  split
  · rw [pass_moved]
  · rw [pass_moved]
  · rfl

theorem literal?_moved (literal : List Char) :
    (cursor.moved bytes lines).literal? literal =
      (cursor.literal? literal).map (Cursor.moved bytes lines) := by
  have same : (cursor.moved bytes lines).rest = cursor.rest := rfl
  unfold literal?
  rw [same]
  split
  · rfl
  · rw [Option.map_map]
    congr 1
    funext rest
    exact pass_moved bytes lines cursor literal rest

theorem until?_moved (literal : List Char) :
    (cursor.moved bytes lines).until? literal =
      (cursor.until? literal).map fun found => (found.1, found.2.moved bytes lines) := by
  have same : (cursor.moved bytes lines).rest = cursor.rest := rfl
  unfold until?
  rw [same, Option.map_map]
  congr 1
  funext found
  exact congrArg (Prod.mk found.1) (pass_moved bytes lines cursor found.1 found.2)

end Cursor

namespace Tag

theorem content?_moved (sigil : Option Sigil) (closing : List Char) (cursor : Cursor) :
    content? sigil closing (cursor.moved bytes lines) =
      (content? sigil closing cursor).map fun found => (found.1, found.2.moved bytes lines) := by
  unfold content?
  rw [Cursor.takeWhile_moved, Cursor.until?_moved]
  cases sigil with
  | none => rfl
  | some sigil =>
    dsimp only
    split
    · rw [Option.map_map, Option.map_map]
      congr 1
      funext raw
      exact Cursor.take_moved bytes lines cursor _
    · rfl

/-- What reading a tag further on gives. -/
def movedRead (read : Except Failure (Tag × Cursor)) : Except Failure (Tag × Cursor) :=
  (read.mapError (Failure.moved bytes lines)).map
    fun found => (found.1.moved bytes lines, found.2.moved bytes lines)

theorem scanInside_moved (delimiters : Delimiters) (atLineStart : Bool) (leading : List Char)
    (position : Position) (inside : Cursor) :
    scanInside delimiters atLineStart leading (position.moved bytes lines)
        (inside.moved bytes lines) =
      movedRead bytes lines (scanInside delimiters atLineStart leading position inside) := by
  unfold scanInside
  dsimp only
  rw [Cursor.takeOne_moved]
  dsimp only
  rw [Cursor.takeWhile_moved]
  dsimp only
  rw [content?_moved]
  cases content? _ delimiters.closing.toList _ with
  | none => rfl
  | some content =>
    dsimp only [Option.map_some]
    split
    · rfl
    · rw [Cursor.takeWhile_moved]
      dsimp only
      rw [Cursor.takeOne_moved]
      dsimp only
      rw [Cursor.literal?_moved]
      cases Cursor.literal? _ delimiters.closing.toList with
      | none => rfl
      | some after =>
        dsimp only [Option.map_some]
        cases TagKind.of? _ content.1 with
        | none => rfl
        | some kind =>
          have blank : (after.moved bytes lines).blankToLineEnd = after.blankToLineEnd := rfl
          dsimp only
          rw [blank, Cursor.takeWhile_moved]
          dsimp only
          rw [Cursor.takeLineBreak_moved]
          split
          · rfl
          · rfl

theorem scan?_moved (delimiters : Delimiters) (cursor : Cursor) :
    scan? delimiters (cursor.moved bytes lines) =
      (scan? delimiters cursor).map (movedRead bytes lines) := by
  unfold scan?
  dsimp only
  rw [Cursor.takeWhile_moved]
  dsimp only
  rw [Cursor.literal?_moved, Option.map_map, Option.map_map]
  congr 1
  funext inside
  exact scanInside_moved bytes lines delimiters cursor.atLineStart _ _ inside

end Tag

namespace Lexer

theorem next?_moved (lexer : Lexer) :
    (lexer.moved bytes lines).next? = lexer.next?.map fun read =>
      (read.mapError (Failure.moved bytes lines)).map fun found =>
        (found.1.moved bytes lines, found.2.moved bytes lines) := by
  have same : (lexer.moved bytes lines).cursor.rest = lexer.cursor.rest := rfl
  unfold next?
  rw [same]
  split
  · rfl
  · have scanned := Tag.scan?_moved bytes lines lexer.delimiters lexer.cursor
    change Tag.scan? (lexer.moved bytes lines).delimiters (lexer.moved bytes lines).cursor = _
      at scanned
    rw [scanned]
    cases Tag.scan? lexer.delimiters lexer.cursor with
    | none =>
      have taken := Cursor.take_moved bytes lines lexer.cursor
      dsimp only [Option.map_none]
      change some (Except.ok (Lexeme.text ((lexer.cursor.moved bytes lines).take _).1,
        (⟨lexer.delimiters, ((lexer.cursor.moved bytes lines).take _).2⟩ : Lexer))) = _
      rw [taken]
      rfl
    | some read => cases read <;> rfl

/-- Further on, the same lexemes are read. -/
theorem collect_moved (lexer : Lexer) :
    (lexer.moved bytes lines).collect [] = (lexer.collect []).moved bytes lines := by
  induction lexer using stepwise with
  | ended lexer step =>
    have moved : (lexer.moved bytes lines).next? = none := by rw [next?_moved, step]; rfl
    rw [collect_of_none [] step, collect_of_none [] moved]
    rfl
  | failed lexer failure step =>
    have moved : (lexer.moved bytes lines).next? =
        some (.error (failure.moved bytes lines)) := by rw [next?_moved, step]; rfl
    rw [collect_of_error [] step, collect_of_error [] moved]
    rfl
  | read lexer next lexeme step ih =>
    have moved : (lexer.moved bytes lines).next? =
        some (.ok (lexeme.moved bytes lines, next.moved bytes lines)) := by
      rw [next?_moved, step]
      rfl
    rw [collect_of_ok [] step, collect_of_ok [] moved, collect_eq_cons, collect_eq_cons next, ih]
    rfl

end Lexer

namespace Node

theorem movedAll_append (first second : List Node) :
    movedAll bytes lines (first ++ second) =
      movedAll bytes lines first ++ movedAll bytes lines second := by
  induction first with
  | nil => rfl
  | cons node first ih => simp [movedAll, ih]

theorem movedAll_literal (text : List Char) :
    movedAll bytes lines (literal text) = literal text := by
  unfold literal
  split
  · rfl
  · simp [movedAll, moved]

end Node

theorem Lexeme.source_moved (lexeme : Lexeme) :
    (lexeme.moved bytes lines).source = lexeme.source := by
  cases lexeme <;> rfl

theorem Lexeme.bareTags_moved (lexemes : List Lexeme) :
    bareTags (lexemes.map (Lexeme.moved bytes lines)) =
      (bareTags lexemes).map (Tag.moved bytes lines) := by
  induction lexemes with
  | nil => rfl
  | cons lexeme lexemes ih =>
    cases lexeme with
    | text content => exact ih
    | tag tag => exact congrArg (tag.bare.moved bytes lines :: ·) ih

theorem Tag.node?_moved {tag : Tag} {node : Node} (known : tag.node? = some node) :
    (tag.moved bytes lines).node? = some (node.moved bytes lines) := by
  have kept : (tag.moved bytes lines).kind = tag.kind := rfl
  unfold node? at known ⊢
  rw [kept]
  cases kind : tag.kind <;> rw [kind] at known <;> cases known <;> rw [Node.moved] <;> rfl

/-- Moved lexemes nest to the moved tree. -/
theorem Nests.moved {lexemes : List Lexeme} {nodes : List Node} (nests : Nests lexemes nodes) :
    Nests (lexemes.map (Lexeme.moved bytes lines)) (Node.movedAll bytes lines nodes) := by
  have literals (tag : Tag) :
      Node.movedAll bytes lines tag.literal = (tag.moved bytes lines).literal := by
    unfold Tag.literal
    split
    · rename_i alone
      rw [if_pos (show (tag.moved bytes lines).standalone = true from alone)]
      rfl
    · rename_i inLine
      rw [if_neg (show ¬ (tag.moved bytes lines).standalone = true from inLine)]
      exact Node.movedAll_literal bytes lines tag.leading
  induction nests with
  | nil => exact .nil
  | text content later ih =>
    rw [Node.movedAll_append, Node.movedAll_literal]
    exact .text content ih
  | leaf tag node known later ih =>
    rw [Node.movedAll_append, literals, Node.movedAll]
    exact .leaf (tag.moved bytes lines) _ (Tag.node?_moved bytes lines known) ih
  | enclosed opened closed inverted opens closes named inside later ihInside ih =>
    rename_i inner lexemes body nodes
    have whole := Nests.enclosed (opened.moved bytes lines) (closed.moved bytes lines) inverted
      opens closes named ihInside ih
    have source : (inner.map (Lexeme.moved bytes lines)).flatMap Lexeme.source =
        inner.flatMap Lexeme.source := by
      rw [List.flatMap_map]
      simp only [Lexeme.source_moved]
    have enclosed : ((opened.enclose inverted (body ++ closed.literal)
        (inner.flatMap Lexeme.source ++ closed.leading)).moved bytes lines) =
        (opened.moved bytes lines).enclose inverted
          (Node.movedAll bytes lines body ++ (closed.moved bytes lines).literal)
          ((inner.map (Lexeme.moved bytes lines)).flatMap Lexeme.source ++
            (closed.moved bytes lines).leading) := by
      rw [source, ← literals, ← Node.movedAll_append]
      unfold Tag.enclose
      cases inverted <;> simp [Node.moved, Tag.moved]
    rw [Node.movedAll_append, literals, Node.movedAll, enclosed]
    simpa [Lexeme.moved] using whole

/-- The first violation moves with the tags. -/
theorem Tagging.verdictFrom_moved (failure : Option Failure)
    (sections : List (List Char × Position)) (tags : List Tag) :
    verdictFrom (failure.map (Failure.moved bytes lines))
        (sections.map fun opened => (opened.1, opened.2.moved bytes lines))
        (tags.map (Tag.moved bytes lines)) =
      (verdictFrom failure sections tags).map (Failure.moved bytes lines) := by
  induction tags generalizing sections with
  | nil =>
    cases sections with
    | nil => rfl
    | cons opened sections => cases failure <;> rfl
  | cons tag tags ih =>
    have kind : (tag.moved bytes lines).kind = tag.kind := rfl
    rw [List.map_cons]
    rcases TreeBuilder.exists_node_or tag with ⟨node, known⟩ | ⟨inverted, opens⟩ | closes
    · rw [verdictFrom_leaf _ _ _ known, verdictFrom_leaf _ _ _ (tag.node?_moved bytes lines known)]
      exact ih sections
    · rw [verdictFrom_open _ _ _ opens, verdictFrom_open _ _ _ (kind.trans opens)]
      exact ih ((tag.content, tag.position) :: sections)
    · cases sections with
      | nil =>
        rw [verdictFrom_close_nil _ _ closes]
        exact verdictFrom_close_nil _ _ (kind.trans closes)
      | cons opened outer =>
        obtain ⟨name, position⟩ := opened
        rw [List.map_cons, verdictFrom_close_cons _ _ _ closes,
          verdictFrom_close_cons _ _ _ (kind.trans closes)]
        change (if name = tag.content then _ else _) = _
        by_cases named : name = tag.content
        · rw [if_pos named, if_pos named]
          exact ih outer
        · rw [if_neg named, if_neg named]
          rfl

end Mustache
