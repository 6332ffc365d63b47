import Mustache.Proofs.LineBoundary
import Mustache.Proofs.Relocation

/-!
# Templates one behind the other

Whole lines that form a template can be parsed apart from what follows them. The rest is parsed
under the delimiters that the lines leave in force; its tree comes behind theirs, moved to its place,
and only a literal text that goes on over the boundary is in two pieces.
-/

namespace Mustache

set_option autoImplicit false

mutual

/-- The pair in force behind a node that starts under `pair`: its last change, in document order. -/
def Node.pairAfter (pair : Delimiters) : Node → Delimiters
  | .sequence children => Node.pairAfterAll pair children
  | .block _ body _ _ _ => Node.pairAfterAll pair body
  | .inverted _ body _ => Node.pairAfterAll pair body
  | .delimiters change _ => change
  | .text _ => pair
  | .escaped _ _ => pair
  | .unescaped _ _ => pair
  | .partialTag _ _ _ => pair
  | .comment _ _ => pair

def Node.pairAfterAll (pair : Delimiters) : List Node → Delimiters
  | [] => pair
  | first :: rest => Node.pairAfterAll (first.pairAfter pair) rest

end

namespace Node

/-- Adds a node in front, as one with a literal text that follows. -/
def joinFront : Node → List Node → List Node
  | .text first, .text second :: rest => .text (first ++ second) :: rest
  | node, rest => node :: rest

/-- The nodes with literal texts that stand side by side made one. -/
def joinTexts (nodes : List Node) : List Node := nodes.foldr joinFront []

theorem joinTexts_append (first second : List Node) :
    joinTexts (first ++ second) = first.foldr joinFront (joinTexts second) := List.foldr_append

theorem joinTexts_literal_append (first second : List Char) (rest : List Node) :
    joinTexts (literal (first ++ second) ++ rest) =
      joinTexts (literal first ++ (literal second ++ rest)) := by
  rw [joinTexts_append, joinTexts_append, joinTexts_append]
  cases first with
  | nil => rfl
  | cons head first =>
    cases second with
    | nil => simp [literal]
    | cons next second =>
      change joinFront (.text (String.ofList ((head :: first) ++ (next :: second)))) _ =
        joinFront (.text (String.ofList (head :: first)))
          (joinFront (.text (String.ofList (next :: second))) _)
      rw [String.ofList_append]
      cases joinTexts rest with
      | nil => rfl
      | cons node later =>
        cases node with
        | text content => simp only [joinFront, List.foldr_nil, String.append_assoc]
        | _ => rfl

theorem pairAfterAll_append (pair : Delimiters) (first second : List Node) :
    pairAfterAll pair (first ++ second) = pairAfterAll (pairAfterAll pair first) second := by
  induction first generalizing pair with
  | nil => rfl
  | cons node first ih =>
    rw [List.cons_append, pairAfterAll, pairAfterAll]
    exact ih (node.pairAfter pair)

theorem pairAfterAll_literal (pair : Delimiters) (text : List Char) :
    pairAfterAll pair (literal text) = pair := by
  unfold literal
  split
  · rfl
  · rfl

theorem pairAfterAll_tagLiteral (pair : Delimiters) (tag : Tag) :
    pairAfterAll pair tag.literal = pair := by
  unfold Tag.literal
  split
  · rfl
  · exact pairAfterAll_literal pair tag.leading

theorem pairAfter_of_leaf {tag : Tag} {node : Node} (known : tag.node? = some node)
    (pair : Delimiters) : node.pairAfter pair = tag.bare.pairAfter pair := by
  have kept : tag.bare.kind = tag.kind := rfl
  unfold Tag.pairAfter
  unfold Tag.node? at known
  rw [kept]
  cases kind : tag.kind <;> rw [kind] at known <;> cases known <;> rfl

theorem pairAfter_enclose (tag : Tag) (inverted : Bool) (body : List Node) (raw : List Char)
    (pair : Delimiters) : (tag.enclose inverted body raw).pairAfter pair = pairAfterAll pair body := by
  unfold Tag.enclose
  cases inverted with
  | true => rfl
  | false => rfl

end Node

/-- The tree and the tags agree on the pair that is in force behind them. -/
theorem Nests.pairAfterAll {lexemes : List Lexeme} {nodes : List Node} (nests : Nests lexemes nodes)
    (pair : Delimiters) : Node.pairAfterAll pair nodes = Lexeme.pairAfter pair lexemes := by
  unfold Lexeme.pairAfter
  induction nests generalizing pair with
  | nil => rfl
  | text content later ih =>
    rw [Node.pairAfterAll_append, Node.pairAfterAll_literal]
    exact ih pair
  | leaf tag node known later ih =>
    rw [Node.pairAfterAll_append, Node.pairAfterAll_tagLiteral, Node.pairAfterAll,
      Node.pairAfter_of_leaf known]
    exact ih (tag.bare.pairAfter pair)
  | enclosed opened closed inverted opens closes named inside later ihInside ih =>
    have openedKeeps (pair : Delimiters) : opened.bare.pairAfter pair = pair := by
      simp [Tag.pairAfter, Tag.bare, opens]
    have closedKeeps (pair : Delimiters) : closed.bare.pairAfter pair = pair := by
      simp [Tag.pairAfter, Tag.bare, closes]
    rw [Node.pairAfterAll_append, Node.pairAfterAll_tagLiteral, Node.pairAfterAll,
      Node.pairAfter_enclose, Node.pairAfterAll_append, Node.pairAfterAll_tagLiteral, ihInside, ih,
      Lexeme.bareTags_tag, List.foldl_cons, openedKeeps, Lexeme.bareTags_append, List.foldl_append,
      Lexeme.bareTags_tag, List.foldl_cons, closedKeeps]

/-- Tags that nest leave the sections around them as they were. -/
theorem Nests.verdictFrom_append {lexemes : List Lexeme} {nodes : List Node}
    (nests : Nests lexemes nodes) (failure : Option Failure)
    (sections : List (List Char × Position)) (more : List Tag) :
    Tagging.verdictFrom failure sections (Lexeme.bareTags lexemes ++ more) =
      Tagging.verdictFrom failure sections more := by
  induction nests generalizing sections more with
  | nil => rfl
  | text content later ih => exact ih sections more
  | leaf tag node known later ih =>
    obtain ⟨bareNode, bareKnown, -⟩ := Tag.node?_bare known
    rw [Lexeme.bareTags_tag, List.cons_append, Tagging.verdictFrom_leaf _ _ _ bareKnown]
    exact ih sections more
  | enclosed opened closed inverted opens closes named inside later ihInside ih =>
    have bareOpens : opened.bare.kind = .openSection inverted := opens
    have bareCloses : closed.bare.kind = .closeSection := closes
    rw [Lexeme.bareTags_tag, List.cons_append, Tagging.verdictFrom_open _ _ _ bareOpens,
      Lexeme.bareTags_append, List.append_assoc, ihInside, Lexeme.bareTags_tag, List.cons_append,
      Tagging.verdictFrom_close_cons _ _ _ bareCloses]
    change (if opened.content = closed.content then _ else _) = _
    rw [if_pos named]
    exact ih sections more

/-- A literal text that comes last is the last node, unless it is empty. -/
theorem Nests.of_concat_text {lexemes : List Lexeme} {content : List Char} {nodes : List Node}
    (nests : Nests (lexemes ++ [.text content]) nodes) :
    ∃ before, Nests lexemes before ∧ nodes = before ++ Node.literal content := by
  -- By induction on `nests` the text could stand behind any lexeme; the builder adds it last.
  have made := (Lexing.toNodes_eq_ok_iff ⟨_, none⟩ nodes).2 ⟨rfl, nests⟩
  unfold Lexing.toNodes at made
  dsimp only at made
  rw [TreeBuilder.addAll_append] at made
  cases added : TreeBuilder.empty.addAll lexemes with
  | error failure =>
    rw [added] at made
    cases made
  | ok builder =>
    rw [added] at made
    change TreeBuilder.finish { builder with
      nodes := TreeBuilder.addText builder.nodes content, raw := content :: builder.raw } = _ at made
    unfold TreeBuilder.finish at made
    dsimp only at made
    cases outside : builder.sections with
    | cons opened outer =>
      rw [outside] at made
      cases made
    | nil =>
      rw [outside] at made
      cases made
      refine ⟨builder.nodes.reverse, ?_, ?_⟩
      · apply ((Lexing.toNodes_eq_ok_iff ⟨lexemes, none⟩ builder.nodes.reverse).1 _).2
        unfold Lexing.toNodes
        dsimp only
        rw [added]
        dsimp only
        rw [TreeBuilder.finish, outside]
      · rw [TreeBuilder.addText_eq, List.reverse_append, List.reverse_reverse]

namespace Lexing

variable (front : List Lexeme) (lexing : Lexing)

/-- Behind other lexemes come these, or the first of them goes on with a literal text. -/
theorem behind_cases :
    (behind front lexing).failure = lexing.failure ∧
      ((behind front lexing).lexemes = front ++ lexing.lexemes ∨
        ∃ before first second rest, front = before ++ [.text first] ∧
          lexing.lexemes = .text second :: rest ∧
          (behind front lexing).lexemes = before ++ .text (first ++ second) :: rest) := by
  induction front with
  | nil => exact ⟨rfl, .inl rfl⟩
  | cons lexeme front ih =>
    by_cases goesOn : (∃ tag, lexeme = .tag tag) ∨ front ≠ []
    · rw [behind_cons lexing goesOn]
      refine ⟨ih.1, ?_⟩
      rcases ih.2 with apart | ⟨before, first, second, rest, split, starts, joined⟩
      · exact .inl (congrArg (lexeme :: ·) apart)
      · exact .inr ⟨lexeme :: before, first, second, rest, congrArg (lexeme :: ·) split, starts,
          congrArg (lexeme :: ·) joined⟩
    · rw [not_or, not_not] at goesOn
      obtain ⟨notTag, rfl⟩ := goesOn
      cases lexeme with
      | tag tag => exact absurd ⟨tag, rfl⟩ notTag
      | text content =>
        change (lexing.prependText content).failure = _ ∧
          ((lexing.prependText content).lexemes = _ ∨ _)
        obtain ⟨lexemes, failure⟩ := lexing
        cases lexemes with
        | nil => exact ⟨rfl, .inl rfl⟩
        | cons first rest =>
          cases first with
          | tag tag => exact ⟨rfl, .inl rfl⟩
          | text next => exact ⟨rfl, .inr ⟨[], content, next, rest, rfl, rfl, rfl⟩⟩

theorem bareTags_behind : Lexeme.bareTags (behind front lexing).lexemes =
    Lexeme.bareTags front ++ Lexeme.bareTags lexing.lexemes := by
  rcases (behind_cases front lexing).2 with apart | ⟨before, first, second, rest, rfl, starts, joined⟩
  · rw [apart, Lexeme.bareTags_append]
  · have none (content : List Char) : Lexeme.bareTags [.text content] = [] := rfl
    rw [joined, starts]
    simp [none]

end Lexing

/-- Trees one behind the other are those of the lexemes, up to a literal text in two pieces. -/
theorem Nests.behind {front : List Lexeme} (lexing : Lexing) {nodes others : List Node}
    (nests : Nests front nodes) (nestsOthers : Nests lexing.lexemes others) :
    ∃ whole, Nests (Lexing.behind front lexing).lexemes whole ∧
      Node.joinTexts whole = Node.joinTexts (nodes ++ others) := by
  rcases (Lexing.behind_cases front lexing).2 with
    apart | ⟨before, first, second, rest, rfl, starts, joined⟩
  · rw [apart]
    exact ⟨nodes ++ others, nests.append nestsOthers, rfl⟩
  · obtain ⟨earlier, nestsBefore, rfl⟩ := nests.of_concat_text
    rw [starts] at nestsOthers
    rw [joined]
    cases nestsOthers with
    | text content later =>
      rename_i nodes
      refine ⟨_, nestsBefore.append (.text (first ++ second) later), ?_⟩
      have joinedOnce := Node.joinTexts_literal_append first second nodes
      rw [List.append_assoc, Node.joinTexts_append earlier, Node.joinTexts_append earlier,
        joinedOnce]

theorem Lexing.toNodes_eq_error_iff (lexing : Lexing) (failure : Failure) :
    lexing.toNodes = .error failure ↔
      Tagging.verdictFrom lexing.failure [] (Lexeme.bareTags lexing.lexemes) = some failure := by
  obtain ⟨refused, accepted⟩ := lexing.toNodes_eq_verdict
  constructor
  · intro failed
    cases verdict : Tagging.verdictFrom lexing.failure [] (Lexeme.bareTags lexing.lexemes) with
    | none =>
      obtain ⟨nodes, made⟩ := accepted verdict
      rw [made] at failed
      cases failed
    | some violation =>
      rw [refused violation verdict] at failed
      cases failed
      rfl
  · exact refused failure

/-- Behind lexemes that nest, the first violation is that of the others. -/
theorem Nests.toNodes_behind {front : List Lexeme} {nodes : List Node} (nests : Nests front nodes)
    {lexing : Lexing} {failure : Failure} (failed : lexing.toNodes = .error failure)
    (bytes lines : Nat) :
    (Lexing.behind front (lexing.moved bytes lines)).toNodes =
      .error (failure.moved bytes lines) := by
  apply (Lexing.toNodes_eq_error_iff _ _).2
  have violated := (lexing.toNodes_eq_error_iff failure).1 failed
  have moved := Tagging.verdictFrom_moved bytes lines lexing.failure []
    (Lexeme.bareTags lexing.lexemes)
  rw [Lexing.bareTags_behind, (Lexing.behind_cases _ _).1, nests.verdictFrom_append]
  dsimp only [Lexing.moved]
  rw [Lexeme.bareTags_moved]
  rw [violated] at moved
  exact moved

/-- A line behind other text is found by the bytes of that text. -/
theorem Text.dropBytes_append (first second : List Char) (count : Nat) :
    dropBytes (count + byteLength first) (first ++ second) = dropBytes count second := by
  induction first with
  | nil => rfl
  | cons character rest ih =>
    have positive := character.utf8Size_pos
    obtain ⟨width, wide⟩ : ∃ width, count + byteLength (character :: rest) = width + 1 :=
      ⟨count + byteLength (character :: rest) - 1, by simp only [byteLength_cons]; omega⟩
    have later : width + 1 - character.utf8Size = count + byteLength rest := by
      rw [byteLength_cons] at wide
      omega
    rw [wide, List.cons_append, dropBytes, later, ih]

theorem Failure.report_moved (failure : Failure) (first second : String) :
    (failure.moved (Text.byteLength first.toList) (first.toList.count '\n')).report
        (first ++ second) =
      (failure.report second).moved (Text.byteLength first.toList) (first.toList.count '\n') := by
  have line : Position.lineText (failure.position.moved (Text.byteLength first.toList)
      (first.toList.count '\n')) (first ++ second) = failure.position.lineText second := by
    unfold Position.lineText Position.lineAt
    rw [String.toList_append]
    dsimp only [Position.moved]
    rw [Text.dropBytes_append]
  unfold Failure.report
  dsimp only [Failure.moved, ParseError.moved]
  rw [line]

/-- The lexemes of two texts one behind the other, the first of which ends in a line break. -/
theorem Lexing.ofText_append {delimiters : Delimiters} (plain : delimiters.Plain)
    {first : List Char} (ends : Text.EndsLine first)
    (complete : (Lexing.ofText delimiters first).failure = none) (second : List Char) :
    Lexing.ofText delimiters (first ++ second) =
      behind (Lexing.ofText delimiters first).lexemes
        ((Lexing.ofText (Lexeme.pairAfter delimiters (Lexing.ofText delimiters first).lexemes)
          second).moved (Text.byteLength first) (first.count '\n')) := by
  have extended := (Lexer.ofText delimiters first).collect_extend plain ends complete second
  have reached : (Lexer.ofText delimiters first).cursor.position.after
      (Lexer.ofText delimiters first).cursor.rest =
        Position.start.moved (Text.byteLength first) (first.count '\n') :=
    Position.after_start_of_endsLine ends
  have moved := Lexer.collect_moved (Text.byteLength first) (first.count '\n')
    (Lexer.ofText (Lexeme.pairAfter delimiters (Lexing.ofText delimiters first).lexemes) second)
  unfold Lexer.atEnd at extended
  rw [reached] at extended
  unfold Lexing.ofText at moved ⊢
  rw [← moved]
  exact extended

/-- A template that is empty or ends in a line break can be parsed apart from what follows it: the
rest parses under the delimiters then in force exactly if the whole does. Its tree comes behind the
first, moved by the bytes and lines of the first text and joined to it by literal texts side by
side; its error is that of the whole, moved likewise, so cause, column and line text stay. -/
theorem parse_append (delimiters : Delimiters) (plain : delimiters.Plain) (first second : String)
    (ends : Text.EndsLine first.toList) (front : List Node)
    (parsed : parse delimiters first = .ok (.sequence front)) :
    ((∃ tree, parse delimiters (first ++ second) = .ok tree) ↔
      ∃ tree, parse (Node.pairAfterAll delimiters front) second = .ok tree) ∧
    (∀ back, parse (Node.pairAfterAll delimiters front) second = .ok (.sequence back) →
      ∃ whole, parse delimiters (first ++ second) = .ok (.sequence whole) ∧
        Node.joinTexts whole = Node.joinTexts (front ++
          Node.movedAll (Text.byteLength first.toList) (first.toList.count '\n') back)) ∧
    (∀ error, parse (Node.pairAfterAll delimiters front) second = .error error →
      parse delimiters (first ++ second) =
        .error (error.moved (Text.byteLength first.toList) (first.toList.count '\n'))) := by
  obtain ⟨nodes, same, complete, nests⟩ := (parse_eq_ok_iff delimiters first _).1 parsed
  cases same
  have lexed := Lexing.ofText_append plain ends complete second.toList
  rw [← nests.pairAfterAll, ← String.toList_append] at lexed
  generalize Node.pairAfterAll delimiters front = pair at lexed ⊢
  have accepted (back : List Node) (parsedBack : parse pair second = .ok (.sequence back)) :
      ∃ whole, parse delimiters (first ++ second) = .ok (.sequence whole) ∧
        Node.joinTexts whole = Node.joinTexts (front ++
          Node.movedAll (Text.byteLength first.toList) (first.toList.count '\n') back) := by
    obtain ⟨others, same, completeBack, nestsBack⟩ := (parse_eq_ok_iff pair second _).1 parsedBack
    cases same
    obtain ⟨whole, nestsWhole, joined⟩ := nests.behind
      ((Lexing.ofText pair second.toList).moved _ _) (nestsBack.moved _ _)
    refine ⟨whole, ?_, joined⟩
    apply (parse_eq_ok_iff delimiters (first ++ second) _).2
    refine ⟨whole, rfl, ?_, ?_⟩
    · rw [lexed, (Lexing.behind_cases _ _).1, Lexing.moved, completeBack]
      rfl
    · rw [lexed]
      exact nestsWhole
  have refused (error : ParseError) (failed : parse pair second = .error error) :
      parse delimiters (first ++ second) =
        .error (error.moved (Text.byteLength first.toList) (first.toList.count '\n')) := by
    unfold parse at failed ⊢
    cases made : (Lexing.ofText pair second.toList).toNodes with
    | ok others =>
      rw [made] at failed
      cases failed
    | error failure =>
      rw [made] at failed
      cases failed
      rw [lexed, nests.toNodes_behind made]
      exact congrArg Except.error (failure.report_moved first second)
  refine ⟨?_, accepted, refused⟩
  -- The verdict on the whole is the verdict on the second text.
  cases parsedBack : parse pair second with
  | error error => simp [refused error parsedBack]
  | ok tree =>
    obtain ⟨back, rfl, -⟩ := (parse_eq_ok_iff pair second tree).1 parsedBack
    obtain ⟨whole, parsedWhole, -⟩ := accepted back parsedBack
    simp [parsedWhole]

theorem parse_append_change :
    Delimiters.standard.Plain ∧ Text.EndsLine "\x7b\x7b=< >=\x7d\x7d\na\n".toList ∧
      parse Delimiters.standard "\x7b\x7b=< >=\x7d\x7d\na\n" =
        .ok (.sequence [.delimiters ⟨"<", ">"⟩ Position.start, .text "a\n"]) ∧
      ∃ whole, parse Delimiters.standard ("\x7b\x7b=< >=\x7d\x7d\na\n" ++ "b<c>") =
          .ok (.sequence whole) ∧
        Node.joinTexts whole =
          [.delimiters ⟨"<", ">"⟩ Position.start, .text "a\nb", .escaped ⟨["c"]⟩ ⟨13, 12, 2, 1⟩] := by
  have ends : Text.EndsLine "\x7b\x7b=< >=\x7d\x7d\na\n".toList := .inr (by decide)
  have parsed : parse Delimiters.standard "\x7b\x7b=< >=\x7d\x7d\na\n" =
      .ok (.sequence [.delimiters ⟨"<", ">"⟩ Position.start, .text "a\n"]) := by cbv
  have parsedBack : parse ⟨"<", ">"⟩ "b<c>" =
      .ok (.sequence [.text "b", .escaped ⟨["c"]⟩ ⟨1, 0, 0, 1⟩]) := by cbv
  obtain ⟨-, accepted, -⟩ :=
    parse_append Delimiters.standard Delimiters.standard_plain _ "b<c>" ends _ parsed
  obtain ⟨whole, parsedWhole, joined⟩ := accepted _ parsedBack
  refine ⟨Delimiters.standard_plain, ends, parsed, whole, parsedWhole, ?_⟩
  rw [joined]
  cbv

end Mustache
