import Mathlib
import Mustache.Proofs.LineRule
import Mustache.Proofs.Nesting

/-!
# What a tree spells

Read from left to right, a tree spells literal characters and tags. A parsed tree spells its source
by the line rule: nothing but what standalone tags take from their lines is missing from it, nothing
occurs twice, and nothing changes places.
-/

namespace Mustache

set_option autoImplicit false

/-- What a tree keeps of a tag. -/
inductive Mark where
  | leaf (node : Node)
  | opened (inverted : Bool) (path : Path) (position : Position)
  | closed

def Tag.mark (tag : Tag) : Mark :=
  match tag.node?, tag.kind with
  | some node, _ => .leaf node
  | none, .openSection inverted => .opened inverted (Path.parse tag.content) tag.position
  | none, _ => .closed

mutual

/-- The characters and tags of a node; a section has one mark on either side of its body. -/
def Node.symbols : Node → List (Symbol Mark)
  | .sequence children => Node.symbolsAll children
  | .text content => Text.symbols content.toList
  | .block path body _ _ position =>
    .mark (.opened false path position) :: (Node.symbolsAll body ++ [.mark .closed])
  | .inverted path body position =>
    .mark (.opened true path position) :: (Node.symbolsAll body ++ [.mark .closed])
  | .escaped path position => [.mark (.leaf (.escaped path position))]
  | .unescaped path position => [.mark (.leaf (.unescaped path position))]
  | .partialTag name indentation position => [.mark (.leaf (.partialTag name indentation position))]
  | .comment content position => [.mark (.leaf (.comment content position))]
  | .delimiters pair position => [.mark (.leaf (.delimiters pair position))]

def Node.symbolsAll : List Node → List (Symbol Mark)
  | [] => []
  | first :: rest => first.symbols ++ Node.symbolsAll rest

end

namespace Node

theorem symbolsAll_append (first second : List Node) :
    symbolsAll (first ++ second) = symbolsAll first ++ symbolsAll second := by
  induction first with
  | nil => rfl
  | cons node first ih => simp [symbolsAll, ih]

theorem symbolsAll_literal (text : List Char) : symbolsAll (literal text) = Text.symbols text := by
  unfold literal
  cases text with
  | nil => rfl
  | cons head rest => simp [symbolsAll, symbols]

theorem symbols_of_leaf {tag : Tag} {node : Node} (known : tag.node? = some node) :
    node.symbols = [.mark tag.mark] := by
  have marked : tag.mark = .leaf node := by
    unfold Tag.mark
    rw [known]
  rw [marked]
  unfold Tag.node? at known
  split at known <;> cases known <;> rw [symbols]

theorem symbols_enclose {tag : Tag} {inverted : Bool} (opens : tag.kind = .openSection inverted)
    (body : List Node) (raw : List Char) :
    (tag.enclose inverted body raw).symbols =
      .mark tag.mark :: (symbolsAll body ++ [.mark .closed]) := by
  have marked : tag.mark = .opened inverted (Path.parse tag.content) tag.position := by
    simp [Tag.mark, Tag.node?, opens]
  rw [marked]
  unfold Tag.enclose
  cases inverted with
  | true => simp [symbols]
  | false => simp [symbols]

end Node

/-- The symbols of a lexeme as a tree keeps them. -/
def Lexeme.marks (lexeme : Lexeme) : List (Symbol Mark) := lexeme.symbols.map (Symbol.map Tag.mark)

theorem Tag.mark_indented (tag : Tag) :
    Tag.mark { tag with leading := tag.indentation } = tag.mark := by
  have same : Tag.node? { tag with leading := tag.indentation } = tag.node? := by
    simp only [Tag.node?, Tag.indentation, Tag.name]
    cases tag.standalone <;> rfl
  unfold Tag.mark
  rw [same]

theorem Lexeme.marks_tag (tag : Tag) :
    Lexeme.marks (.tag tag) = Node.symbolsAll tag.literal ++ [.mark tag.mark] := by
  unfold Lexeme.marks Lexeme.symbols Tag.literal
  rw [List.map_append]
  congr 1
  · cases tag.standalone with
    | true => rfl
    | false =>
      simp only [Bool.false_eq_true, if_false, Node.symbolsAll_literal]
      exact Text.map_symbols Tag.mark tag.leading
  · simp [Symbol.map, Tag.mark_indented]

/-- Nested lexemes make a tree that spells them. -/
theorem Nests.symbols {lexemes : List Lexeme} {nodes : List Node} (nests : Nests lexemes nodes) :
    Node.symbolsAll nodes = lexemes.flatMap Lexeme.marks := by
  induction nests with
  | nil => rfl
  | text content later ih =>
    rw [Node.symbolsAll_append, Node.symbolsAll_literal, ih, List.flatMap_cons]
    congr 1
    exact (Text.map_symbols Tag.mark content).symm
  | leaf tag node known later ih =>
    rw [Node.symbolsAll_append, Node.symbolsAll, Node.symbols_of_leaf known, ih,
      List.flatMap_cons, Lexeme.marks_tag, List.append_assoc]
  | enclosed opened closed inverted opens closes named inside later ihInside ih =>
    have closing : closed.mark = .closed := by simp [Tag.mark, Tag.node?, closes]
    rw [Node.symbolsAll_append, Node.symbolsAll, Node.symbols_enclose opens,
      Node.symbolsAll_append, ihInside, ih]
    simp [Lexeme.marks_tag, closing]

/-- A template parses to the nodes that its lexemes nest to. -/
theorem parse_eq_ok_iff (delimiters : Delimiters) (source : String) (tree : Node) :
    parse delimiters source = .ok tree ↔
      ∃ nodes, tree = .sequence nodes ∧
        (Lexing.ofText delimiters source.toList).failure = none ∧
        Nests (Lexing.ofText delimiters source.toList).lexemes nodes := by
  unfold parse
  constructor
  · intro parsed
    split at parsed
    · cases parsed
    · rename_i nodes made
      cases parsed
      exact ⟨nodes, rfl, (Lexing.toNodes_eq_ok_iff _ nodes).1 made⟩
  · rintro ⟨nodes, rfl, made⟩
    rw [(Lexing.toNodes_eq_ok_iff _ nodes).2 made]

/-- A parsed tree spells its source by the line rule. The first two parts say that the text was
searched for tags up to its end, and that its symbols hold every character once and in order; a tag
that stands alone holds the blanks before it and the rest of its line, any other tag only itself. -/
theorem parse_symbols (delimiters : Delimiters) (plain : delimiters.Plain) (source : String)
    (tree : Node) (parsed : parse delimiters source = .ok tree) :
    (Tagging.ofText delimiters source.toList).failure = none ∧
      (Tagging.ofText delimiters source.toList).symbols.flatMap Symbol.source = source.toList ∧
      tree.symbols =
        (Tagging.ofText delimiters source.toList).symbols.map (Symbol.map Tag.mark) := by
  obtain ⟨nodes, rfl, complete, nests⟩ := (parse_eq_ok_iff delimiters source tree).1 parsed
  refine ⟨?_, Tagging.source_symbols plain complete, ?_⟩
  · rw [(Lexing.tags_ofText plain source.toList).2]
    exact complete
  · rw [Node.symbols, nests.symbols, ← Lexing.symbols_ofText plain complete, List.map_flatMap]
    rfl

theorem parse_symbols_partial :
    parse Delimiters.standard "a\n \x7b\x7b> b\x7d\x7d \nc" =
        .ok (.sequence [.text "a\n", .partialTag "b" " " ⟨3, 2, 1, 1⟩, .text "c"]) ∧
      Node.symbols (.sequence [.text "a\n", .partialTag "b" " " ⟨3, 2, 1, 1⟩, .text "c"]) =
        (Tagging.ofText Delimiters.standard
          "a\n \x7b\x7b> b\x7d\x7d \nc".toList).symbols.map (Symbol.map Tag.mark) := by
  have parsed : parse Delimiters.standard "a\n \x7b\x7b> b\x7d\x7d \nc" =
      .ok (.sequence [.text "a\n", .partialTag "b" " " ⟨3, 2, 1, 1⟩, .text "c"]) := by cbv
  exact ⟨parsed, (parse_symbols Delimiters.standard Delimiters.standard_plain _ _ parsed).2.2⟩

end Mustache
