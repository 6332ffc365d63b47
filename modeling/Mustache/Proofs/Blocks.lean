import Mustache.Proofs.Verdict

/-!
# Blocks and their source

Every section of a tree stems from an open and a close tag with properly nested lexemes in between,
and its raw text is the source of exactly these lexemes and of the blanks before the close tag. The
lexer that has read up to a lexeme goes on from there as it would from a text of its own.
-/

namespace Mustache

set_option autoImplicit false

/-- A section of a tree that is not inverted. -/
structure Block where
  path : Path
  body : List Node
  raw : String
  delimiters : Delimiters
  position : Position

mutual

def Node.blocks : Node → List Block
  | .sequence children => Node.blocksAll children
  | .block path body raw pair position => ⟨path, body, raw, pair, position⟩ :: Node.blocksAll body
  | .inverted _ body _ => Node.blocksAll body
  | .text _ => []
  | .escaped _ _ => []
  | .unescaped _ _ => []
  | .partialTag _ _ _ => []
  | .comment _ _ => []
  | .delimiters _ _ => []

def Node.blocksAll : List Node → List Block
  | [] => []
  | first :: rest => first.blocks ++ Node.blocksAll rest

end

namespace Node

theorem blocksAll_append (first second : List Node) :
    blocksAll (first ++ second) = blocksAll first ++ blocksAll second := by
  induction first with
  | nil => rfl
  | cons node first ih => simp [blocksAll, ih]

theorem blocksAll_literal (text : List Char) : blocksAll (literal text) = [] := by
  unfold literal
  split
  · rfl
  · simp [blocksAll, blocks]

theorem blocksAll_tagLiteral (tag : Tag) : blocksAll tag.literal = [] := by
  unfold Tag.literal
  split
  · rfl
  · exact blocksAll_literal tag.leading

theorem blocks_of_leaf {tag : Tag} {node : Node} (known : tag.node? = some node) :
    node.blocks = [] := by
  unfold Tag.node? at known
  split at known <;> cases known <;> rw [blocks]

end Node

/-- The block that two tags enclose with what lies between them. -/
def Tag.blockTo (opened closed : Tag) (inner : List Lexeme) (body : List Node) : Block :=
  ⟨Path.parse opened.content, body ++ closed.literal,
    String.ofList (inner.flatMap Lexeme.source ++ closed.leading), opened.delimiters,
    opened.position⟩

/-- Every block of a tree lies between two tags that pair up. -/
theorem Nests.exists_tags {lexemes : List Lexeme} {nodes : List Node} (nests : Nests lexemes nodes)
    {block : Block} (inside : block ∈ Node.blocksAll nodes) :
    ∃ before opened inner closed after body,
      lexemes = before ++ .tag opened :: (inner ++ .tag closed :: after) ∧
      opened.kind = .openSection false ∧ closed.kind = .closeSection ∧
      opened.content = closed.content ∧ Nests inner body ∧
      block = opened.blockTo closed inner body := by
  induction nests with
  | nil => cases inside
  | text content later ih =>
    rw [Node.blocksAll_append, Node.blocksAll_literal, List.nil_append] at inside
    obtain ⟨before, opened, inner, closed, after, body, rfl, rest⟩ := ih inside
    exact ⟨.text content :: before, opened, inner, closed, after, body, rfl, rest⟩
  | leaf tag node known later ih =>
    rw [Node.blocksAll_append, Node.blocksAll_tagLiteral, Node.blocksAll,
      Node.blocks_of_leaf known, List.nil_append, List.nil_append] at inside
    obtain ⟨before, opened, inner, closed, after, body, rfl, rest⟩ := ih inside
    exact ⟨.tag tag :: before, opened, inner, closed, after, body, rfl, rest⟩
  | enclosed first last inverted opens closes named nests later ihInside ih =>
    rename_i within lexemes content nodes
    have inBody (found : block ∈ Node.blocksAll (content ++ last.literal)) :
        ∃ before opened inner closed after body,
          .tag first :: (within ++ .tag last :: lexemes) =
            before ++ .tag opened :: (inner ++ .tag closed :: after) ∧
          opened.kind = .openSection false ∧ closed.kind = .closeSection ∧
          opened.content = closed.content ∧ Nests inner body ∧
          block = opened.blockTo closed inner body := by
      rw [Node.blocksAll_append, Node.blocksAll_tagLiteral, List.append_nil] at found
      obtain ⟨before, opened, inner, closed, after, body, rfl, rest⟩ := ihInside found
      exact ⟨.tag first :: before, opened, inner, closed, after ++ .tag last :: lexemes, body,
        by simp, rest⟩
    rw [Node.blocksAll_append, Node.blocksAll_tagLiteral, List.nil_append, Node.blocksAll,
      List.mem_append] at inside
    rcases inside with here | behind
    · unfold Tag.enclose at here
      cases inverted with
      | true =>
        simp only [if_true, Node.blocks] at here
        exact inBody here
      | false =>
        simp only [Bool.false_eq_true, if_false, Node.blocks] at here
        rcases List.mem_cons.1 here with rfl | found
        · exact ⟨[], first, within, last, lexemes, content, rfl, opens, closes, named, nests, rfl⟩
        · exact inBody found
    · obtain ⟨before, opened, inner, closed, after, body, rfl, rest⟩ := ih behind
      exact ⟨.tag first :: (within ++ .tag last :: before), opened, inner, closed, after, body,
        by simp, rest⟩

def Tagging.inForce (delimiters : Delimiters) (tags : List Tag) : Delimiters :=
  tags.foldl (fun _ tag => tag.delimitersAfter) delimiters

namespace Lexer

/-- A run goes on from any lexeme as a run of its own. -/
theorem Runs.drop {lexer : Lexer} {before rest : List Lexeme} {failure : Option Failure}
    (runs : lexer.Runs ⟨before ++ rest, failure⟩) {text : List Char} (placed : lexer.Placed text) :
    ∃ later : Lexer, later.Runs ⟨rest, failure⟩ ∧
      later.Placed (text ++ before.flatMap Lexeme.source) ∧
      later.delimiters = Tagging.inForce lexer.delimiters (Lexeme.bareTags before) := by
  induction before generalizing lexer text with
  | nil => exact ⟨lexer, runs, by simpa using placed, rfl⟩
  | cons lexeme before ih =>
    obtain ⟨following, step, remaining⟩ := runs.uncons
    obtain ⟨last, runsLast, placedLast, inForce⟩ := ih remaining (step.placed runs.plain placed)
    refine ⟨last, runsLast, ?_, ?_⟩
    · rwa [List.flatMap_cons, ← List.append_assoc]
    · rw [inForce]
      cases step with
      | text content behind nonempty ahead absent ends => rfl
      | tag leading behind tag settled after next nonempty ahead blanks read line => rfl

/-- What reading a tag says about the tag and the text around it. -/
theorem Steps.tag_inv {lexer next : Lexer} {tag : Tag}
    (step : lexer.Steps (some (.ok (.tag tag, next)))) {before : List Char}
    (placed : lexer.Placed before) :
    lexer.cursor.rest = tag.source ++ next.cursor.rest ∧
      tag.position = Position.start.after (before ++ tag.leading) ∧
      tag.delimiters = lexer.delimiters ∧ next.delimiters = tag.delimitersAfter ∧
      tag.trailing = (if tag.StandsAlone (before ++ tag.leading) (tag.trailing ++ next.cursor.rest)
        then Text.takeLine (tag.trailing ++ next.cursor.rest) else []) := by
  cases step with
  | tag leading rest found settled after next nonempty ahead blanks read line =>
    obtain ⟨alone, trailing, same, split, -⟩ := Tag.settle_inv (Tag.bare_of_scanBare read) line
    obtain ⟨parts, kind, -, -, foundSame, tail, -⟩ := Tag.scanBare_inv read
    have leadingSame : tag.leading = leading := by rw [same]
    have spanSame : tag.span = found.span := by rw [same]; rfl
    have mayStandAlone : tag.mayStandAlone = found.mayStandAlone := by rw [same]; rfl
    refine ⟨?_, ?_, ?_, rfl, ?_⟩
    · rw [ahead, tail, split, Tag.source, leadingSame, spanSame, foundSame, TagParts.span_toTag]
      simp
    · rw [leadingSame, Position.after_append, ← placed.1, same, foundSame]
      rfl
    · rw [same, foundSame]
      rfl
    · have rule : tag.StandsAlone (before ++ tag.leading) (tag.trailing ++ next.rest) ↔
          tag.standalone = true := by
        rw [Tag.standsAlone_iff, alone,
          atLineStart_eq placed.1 (placed.settled (by simp [ahead, nonempty])), leadingSame,
          Text.endsInBlanks_append_blanks before blanks, mayStandAlone, ← split,
          Bool.and_comm found.mayStandAlone]
      rw [← split] at rule ⊢
      rw [trailing]
      simp only [rule]

theorem Steps.leading_blank {lexer next : Lexer} {tag : Tag}
    (step : lexer.Steps (some (.ok (.tag tag, next)))) :
    ∀ character ∈ tag.leading, Text.isBlank character = true := by
  cases step with
  | tag leading rest found settled after next nonempty ahead blanks read line =>
    obtain ⟨-, -, same, -, -⟩ := Tag.settle_inv (Tag.bare_of_scanBare read) line
    rw [same]
    exact blanks

/-- The tag is read again wherever its source stands, as long as lines are left aside. -/
theorem Steps.scan_source {lexer next : Lexer} {tag : Tag} (plain : lexer.delimiters.Plain)
    (step : lexer.Steps (some (.ok (.tag tag, next)))) (position : Position) (more : List Char) :
    Tagging.scan lexer.delimiters ⟨position, tag.source ++ more⟩ =
      ((Tagging.scan next.delimiters ⟨position.after tag.source, more⟩).prepend tag.trailing).cons
        ⟨tag.leading, { tag.bare with position := position.after tag.leading }⟩ := by
  have plainNext := step.plain plain
  cases step with
  | tag leading rest found settled after next nonempty ahead blanks read line =>
    have isBare := Tag.bare_of_scanBare read
    obtain ⟨-, -, same, -, -⟩ := Tag.settle_inv isBare line
    obtain ⟨parts, kind, -, -, foundSame, -, -⟩ := Tag.scanBare_inv read
    have foundSpan : found.span = lexer.delimiters.mark ++
        (parts.inner ++ lexer.delimiters.closing.toList) := by
      rw [foundSame, TagParts.span_toTag]
    have source : tag.source = leading ++ (found.span ++ tag.trailing) := by
      rw [same]
      simp [Tag.source, Tag.span]
    have split : tag.source ++ more = leading ++ (lexer.delimiters.mark ++
        (parts.inner ++ lexer.delimiters.closing.toList ++ (tag.trailing ++ more))) := by
      rw [source, foundSpan]
      simp
    have cut := Tagging.until?_mark plain nonempty position
      (fun character inside => Text.isSpace_of_isBlank (blanks character inside))
      (parts.inner ++ lexer.delimiters.closing.toList ++ (tag.trailing ++ more))
    have again := Tag.scanBare_span_append read (position.after leading) (tag.trailing ++ more)
    rw [foundSpan, List.append_assoc] at again
    have kept : tag.delimitersAfter = found.delimitersAfter := by
      rw [same]
      rfl
    rw [split, Tagging.scan_of_ok cut again]
    change (Tagging.scan found.delimitersAfter _).cons _ = _
    dsimp only at plainNext ⊢
    rw [kept] at plainNext ⊢
    rw [Tagging.scan_spaces_append plainNext _ (Tag.isSpace_of_mem_trailing isBare line)]
    have moved : position.after tag.source = ((position.after leading).after
        (lexer.delimiters.mark ++ (parts.inner ++ lexer.delimiters.closing.toList))).after
          tag.trailing := by
      rw [source, foundSpan, Position.after_append, Position.after_append]
    have bareSame : tag.bare = found := Tag.bare_settled isBare same
    have leadingSame : tag.leading = leading := by rw [same]
    rw [moved, bareSame, leadingSame]

/-- Literal text is passed again before any beginning of what follows it. -/
theorem Steps.scan_text {lexer next : Lexer} {content : List Char}
    (step : lexer.Steps (some (.ok (.text content, next)))) (position : Position)
    {more : List Char} (begins : more <+: next.cursor.rest) :
    Tagging.scan lexer.delimiters ⟨position, content ++ more⟩ =
      (Tagging.scan next.delimiters ⟨position.after content, more⟩).prepend content := by
  cases step with
  | text content rest nonempty ahead absent ends =>
    apply Tagging.scan_append
    intro marked
    obtain ⟨tail, split⟩ := begins
    have whole := absent marked
    change more ++ tail = rest at split
    rw [← split] at whole
    exact whole.of_append

end Lexer

end Mustache
