import Mustache.Compile
import Mustache.Proofs.Blocks

/-!
# The source of a block as a template

Cut out of its template, the source of a block starts at the beginning of a line and ends with the
text, so tags may stand alone there that did not before, and the other way round. That only moves
blanks and line breaks between tags and literal text: the same tags are read, they nest in the same
way, and the tree is the same up to its literal texts.
-/

namespace Mustache

set_option autoImplicit false

def Tag.unplaced (tag : Tag) : Tag := { tag with position := Position.start }

/-- Lexemes before a tag hold the same tags when their source and the blanks before that tag are a
text of their own, wherever it starts. -/
theorem Lexer.Runs.tags_again {lexer : Lexer} {inner after : List Lexeme} {closed : Tag}
    (runs : lexer.Runs ⟨inner ++ .tag closed :: after, none⟩) (position : Position) :
    (Tagging.scan lexer.delimiters
        ⟨position, inner.flatMap Lexeme.source ++ closed.leading⟩).tags.map Tag.unplaced =
          (Lexeme.bareTags inner).map Tag.unplaced ∧
      (Tagging.scan lexer.delimiters
        ⟨position, inner.flatMap Lexeme.source ++ closed.leading⟩).failure = none := by
  induction inner generalizing lexer position with
  | nil =>
    obtain ⟨following, step, -⟩ := runs.uncons
    have spaces : ∀ character ∈ closed.leading, Text.isSpace character = true :=
      fun character inside => Text.isSpace_of_isBlank (step.leading_blank character inside)
    have ended : Tagging.scan lexer.delimiters ⟨position.after closed.leading, []⟩ =
        ⟨[], [], none⟩ := Tagging.scan_of_ended rfl
    have scanned := Tagging.scan_spaces_append runs.plain position spaces []
    rw [List.append_nil, ended] at scanned
    rw [List.flatMap_nil, List.nil_append, scanned]
    exact ⟨rfl, rfl⟩
  | cons lexeme inner ih =>
    obtain ⟨following, step, later⟩ := runs.uncons
    have tail := ih later (position.after lexeme.source)
    rw [List.flatMap_cons, List.append_assoc]
    cases lexeme with
    | text content =>
      have begins : inner.flatMap Lexeme.source ++ closed.leading <+: following.cursor.rest := by
        rw [← later.source rfl]
        simp [Lexeme.source, Tag.source]
      have again := step.scan_text position begins
      change List.map _ (Tagging.scan lexer.delimiters ⟨position, content ++ _⟩).tags = _ ∧
        (Tagging.scan lexer.delimiters ⟨position, content ++ _⟩).failure = none
      rw [again, Tagging.tags_prepend, Tagging.failure_prepend]
      exact tail
    | tag tag =>
      have again := step.scan_source runs.plain position
        (inner.flatMap Lexeme.source ++ closed.leading)
      change List.map _ (Tagging.scan lexer.delimiters ⟨position, tag.source ++ _⟩).tags = _ ∧
        (Tagging.scan lexer.delimiters ⟨position, tag.source ++ _⟩).failure = none
      rw [again, Tagging.tags_cons, Tagging.tags_prepend, Tagging.failure_cons,
        Tagging.failure_prepend]
      exact ⟨congrArg (tag.bare.unplaced :: ·) tail.1, tail.2⟩

/-- Whether tags nest depends on their kinds and names alone. -/
theorem Tagging.verdictFrom_unplaced {tags others : List Tag}
    (same : tags.map Tag.unplaced = others.map Tag.unplaced)
    {sections around : List (List Char × Position)}
    (names : sections.map Prod.fst = around.map Prod.fst) :
    verdictFrom none sections tags = none ↔ verdictFrom none around others = none := by
  induction tags generalizing others sections around with
  | nil =>
    obtain rfl := List.map_eq_nil_iff.1 same.symm
    cases sections with
    | nil =>
      obtain rfl := List.map_eq_nil_iff.1 names.symm
      rfl
    | cons first sections =>
      cases around with
      | nil => cases names
      | cons second around => simp [verdictFrom]
  | cons tag tags ih =>
    cases others with
    | nil => cases same
    | cons other others =>
      obtain ⟨head, rest⟩ := List.cons.inj same
      have kind : other.kind = tag.kind := (congrArg Tag.kind head).symm
      have content : other.content = tag.content := (congrArg Tag.content head).symm
      unfold verdictFrom
      rw [kind, content]
      cases tag.kind with
      | openSection inverted => exact ih rest (by simp [names])
      | closeSection =>
        cases sections with
        | nil =>
          obtain rfl := List.map_eq_nil_iff.1 names.symm
          simp
        | cons first sections =>
          cases around with
          | nil => cases names
          | cons second around =>
            obtain ⟨name, outer⟩ := List.cons.inj names
            change first.1 = second.1 at name
            dsimp only
            rw [name]
            split
            · exact ih rest outer
            · simp
      | _ => exact ih rest names

mutual

/-- A node without literal text, positions, raw text and what partials are indented by. -/
def Node.skeleton : Node → List Node
  | .sequence children => [.sequence (Node.skeletonAll children)]
  | .text _ => []
  | .block path body _ pair _ =>
    [.block path (Node.skeletonAll body) "" pair Position.start]
  | .inverted path body _ => [.inverted path (Node.skeletonAll body) Position.start]
  | .partialTag name _ _ => [.partialTag name "" Position.start]
  | .escaped path _ => [.escaped path Position.start]
  | .unescaped path _ => [.unescaped path Position.start]
  | .comment content _ => [.comment content Position.start]
  | .delimiters pair _ => [.delimiters pair Position.start]

def Node.skeletonAll : List Node → List Node
  | [] => []
  | first :: rest => first.skeleton ++ Node.skeletonAll rest

end

namespace Node

theorem skeletonAll_append (first second : List Node) :
    skeletonAll (first ++ second) = skeletonAll first ++ skeletonAll second := by
  induction first with
  | nil => rfl
  | cons node first ih => simp [skeletonAll, ih]

theorem skeletonAll_literal (text : List Char) : skeletonAll (literal text) = [] := by
  unfold literal
  split
  · rfl
  · simp [skeletonAll, skeleton]

theorem skeletonAll_tagLiteral (tag : Tag) : skeletonAll tag.literal = [] := by
  unfold Tag.literal
  split
  · rfl
  · exact skeletonAll_literal tag.leading

theorem skeleton_of_leaf {tag : Tag} {node : Node} (known : tag.node? = some node) :
    ∃ outlined, tag.bare.unplaced.node? = some outlined ∧
      outlined.skeleton = node.skeleton := by
  have kept : tag.bare.unplaced.kind = tag.kind := rfl
  unfold Tag.node? at known ⊢
  rw [kept]
  cases kind : tag.kind <;> rw [kind] at known <;> cases known <;>
    exact ⟨_, rfl, by simp [skeleton, Tag.unplaced, Tag.bare, Tag.name]⟩

theorem skeleton_enclose (tag : Tag) (inverted : Bool) {body other : List Node}
    (same : skeletonAll other = skeletonAll body) (raw otherRaw : List Char) :
    (tag.bare.unplaced.enclose inverted other otherRaw).skeleton =
      (tag.enclose inverted body raw).skeleton := by
  unfold Tag.enclose
  cases inverted with
  | true => simp [skeleton, same, Tag.unplaced, Tag.bare]
  | false => simp [skeleton, same, Tag.unplaced, Tag.bare]

end Node

def Lexeme.outline (lexemes : List Lexeme) : List Lexeme :=
  ((bareTags lexemes).map Tag.unplaced).map .tag

/-- The tags alone nest like the lexemes, to a tree with the same skeleton. -/
theorem Nests.outline {lexemes : List Lexeme} {nodes : List Node} (nests : Nests lexemes nodes) :
    ∃ outlined, Nests (Lexeme.outline lexemes) outlined ∧
      Node.skeletonAll outlined = Node.skeletonAll nodes := by
  induction nests with
  | nil => exact ⟨[], .nil, rfl⟩
  | text content later ih =>
    obtain ⟨outlined, nests, same⟩ := ih
    refine ⟨outlined, nests, ?_⟩
    rw [Node.skeletonAll_append, Node.skeletonAll_literal, List.nil_append, same]
  | leaf tag node known later ih =>
    obtain ⟨outlined, nests, same⟩ := ih
    obtain ⟨bareNode, bareKnown, sameNode⟩ := Node.skeleton_of_leaf known
    refine ⟨bareNode :: outlined, .leaf tag.bare.unplaced bareNode bareKnown nests, ?_⟩
    rw [Node.skeletonAll_append, Node.skeletonAll_tagLiteral, List.nil_append, Node.skeletonAll,
      Node.skeletonAll, sameNode, same]
  | enclosed opened closed inverted opens closes named inside later ihInside ih =>
    rename_i inner lexemes body nodes
    obtain ⟨outlinedBody, nestsBody, sameBody⟩ := ihInside
    obtain ⟨outlined, nests, same⟩ := ih
    have whole := Nests.enclosed opened.bare.unplaced closed.bare.unplaced inverted opens closes
      named nestsBody nests
    refine ⟨_, by simpa [Lexeme.outline] using whole, ?_⟩
    have bodies : Node.skeletonAll (outlinedBody ++ closed.bare.unplaced.literal) =
        Node.skeletonAll (body ++ closed.literal) := by
      rw [Node.skeletonAll_append, Node.skeletonAll_append, Node.skeletonAll_tagLiteral,
        Node.skeletonAll_tagLiteral, sameBody]
    rw [Node.skeletonAll_append, Node.skeletonAll_append, Node.skeletonAll_tagLiteral,
      Node.skeletonAll_tagLiteral, Node.skeletonAll, Node.skeletonAll, same,
      Node.skeleton_enclose opened inverted bodies]

theorem Nests.unique {lexemes : List Lexeme} {nodes others : List Node}
    (first : Nests lexemes nodes) (second : Nests lexemes others) : nodes = others := by
  have made := (Lexing.toNodes_eq_ok_iff ⟨lexemes, none⟩ nodes).2 ⟨rfl, first⟩
  rw [(Lexing.toNodes_eq_ok_iff ⟨lexemes, none⟩ others).2 ⟨rfl, second⟩] at made
  exact (Except.ok.inj made).symm

/-- Lexemes with the same tags make trees with the same skeleton. -/
theorem Nests.skeleton_eq {lexemes others : List Lexeme} {nodes otherNodes : List Node}
    (first : Nests lexemes nodes) (second : Nests others otherNodes)
    (same : (Lexeme.bareTags lexemes).map Tag.unplaced =
      (Lexeme.bareTags others).map Tag.unplaced) :
    Node.skeletonAll nodes = Node.skeletonAll otherNodes := by
  obtain ⟨outlined, nests, skeleton⟩ := first.outline
  obtain ⟨otherOutlined, otherNests, otherSkeleton⟩ := second.outline
  unfold Lexeme.outline at nests otherNests
  rw [← same] at otherNests
  rw [← skeleton, ← otherSkeleton, nests.unique otherNests]

namespace Block

/-- Where a block comes from: its open and close tag are a pair of the text's tags, the tags between
them nest, and its raw text is all that lies between, from the next line on if the open tag stands
alone. Its delimiters are those in force at its open tag. -/
def CutFrom (block : Block) (delimiters : Delimiters) (text : List Char) : Prop :=
  ∃ (before inner after : List Tag) (opened closed : Tag) (front skipped back : List Char),
    (Tagging.ofText delimiters text).tags = before ++ opened :: (inner ++ closed :: after) ∧
    opened.kind = .openSection false ∧ closed.kind = .closeSection ∧
    opened.content = closed.content ∧ Tagging.verdictFrom none [] inner = none ∧
    text = front ++ opened.span ++ (skipped ++ block.raw.toList ++ closed.span ++ back) ∧
    opened.position = Position.start.after front ∧
    closed.position =
      Position.start.after (front ++ opened.span ++ skipped ++ block.raw.toList) ∧
    skipped = (if opened.StandsAlone front (skipped ++ block.raw.toList ++ closed.span ++ back)
      then Text.takeLine (skipped ++ block.raw.toList ++ closed.span ++ back) else []) ∧
    block.path = Path.parse opened.content ∧ block.position = opened.position ∧
    block.delimiters = Tagging.inForce delimiters before

/-- The raw text of the block, read under its delimiters, is a template again. Its tree is the body
up to what skeletons leave out, and it can only fail to compile if a pool overflows. -/
def Reparses (block : Block) : Prop :=
  (∃ nodes, parse block.delimiters block.raw = .ok (.sequence nodes) ∧
    Node.skeletonAll nodes = Node.skeletonAll block.body) ∧
  ∀ name error, compile name block.delimiters block.raw ≠ .error (.parse error)

end Block

theorem Nests.verdictFrom_eq_none {lexemes : List Lexeme} {nodes : List Node}
    (nests : Nests lexemes nodes) :
    Tagging.verdictFrom none [] (Lexeme.bareTags lexemes) = none := by
  rw [Option.eq_none_iff_forall_ne_some]
  intro failure found
  have made := (Lexing.toNodes_eq_ok_iff ⟨lexemes, none⟩ nodes).2 ⟨rfl, nests⟩
  rw [(Lexing.toNodes_eq_verdict ⟨lexemes, none⟩).1 failure found] at made
  cases made

/-- A text that parses can only overflow a pool. -/
theorem compile_ne_parse {delimiters : Delimiters} {source : String} {tree : Node}
    (parsed : parse delimiters source = .ok tree) (name : String) (error : ParseError) :
    compile name delimiters source ≠ .error (.parse error) := by
  unfold compile
  rw [parsed]
  dsimp only
  cases tree.toCode name with
  | error overflow =>
    intro impossible
    cases impossible
  | ok code =>
    intro impossible
    cases impossible

/-- The source between two tags that pair up is a template with the same skeleton. -/
theorem Lexer.Runs.reparses {lexer : Lexer} {inner after : List Lexeme} {opened closed : Tag}
    (runs : lexer.Runs ⟨inner ++ .tag closed :: after, none⟩) {body : List Node}
    (nests : Nests inner body) (inForce : lexer.delimiters = opened.delimiters) :
    (opened.blockTo closed inner body).Reparses := by
  have plain : opened.delimiters.Plain := inForce ▸ runs.plain
  obtain ⟨tags, complete⟩ := runs.tags_again Position.start
  rw [inForce] at tags complete
  obtain ⟨lexedTags, lexedFailure⟩ := Lexing.tags_ofText plain
    (inner.flatMap Lexeme.source ++ closed.leading)
  unfold Tagging.ofText Cursor.ofText at lexedTags lexedFailure
  rw [lexedTags] at tags
  rw [lexedFailure] at complete
  have accepted := (Tagging.verdictFrom_unplaced tags rfl).2 nests.verdictFrom_eq_none
  have decided := (Lexing.ofText opened.delimiters
    (inner.flatMap Lexeme.source ++ closed.leading)).toNodes_eq_verdict.2
  rw [complete] at decided
  obtain ⟨nodes, made⟩ := decided accepted
  have nestsAgain := ((Lexing.toNodes_eq_ok_iff _ nodes).1 made).2
  have parsed : parse opened.delimiters
      (String.ofList (inner.flatMap Lexeme.source ++ closed.leading)) = .ok (.sequence nodes) := by
    unfold parse
    rw [String.toList_ofList, made]
  refine ⟨⟨nodes, parsed, ?_⟩, ?_⟩
  · change _ = Node.skeletonAll (body ++ closed.literal)
    rw [Node.skeletonAll_append, Node.skeletonAll_tagLiteral, List.append_nil]
    exact nestsAgain.skeleton_eq nests tags
  · intro name error
    exact compile_ne_parse parsed name error

/-- What lies between two tags that pair up is cut out of the text character by character. -/
theorem Lexer.Runs.cutFrom {delimiters : Delimiters} {text : List Char}
    {before inner after : List Lexeme} {opened closed : Tag} {body : List Node}
    (runs : (Lexer.ofText delimiters text).Runs
      ⟨before ++ .tag opened :: (inner ++ .tag closed :: after), none⟩)
    (opens : opened.kind = .openSection false) (closes : closed.kind = .closeSection)
    (named : opened.content = closed.content) (nests : Nests inner body) :
    (opened.blockTo closed inner body).CutFrom delimiters text := by
  have tags := runs.tags.1
  have all := runs.source rfl
  change _ = text at all
  -- The lexer is followed to the opening tag, over it, and to the closing tag.
  obtain ⟨atOpened, runsOpened, placedOpened, inForce⟩ :=
    runs.drop (Lexer.placed_ofText delimiters text)
  obtain ⟨behind, stepOpened, runsInner⟩ := runsOpened.uncons
  obtain ⟨-, positionOpened, writtenOpened, -, trailing⟩ := stepOpened.tag_inv placedOpened
  have placedInner := stepOpened.placed runsOpened.plain placedOpened
  obtain ⟨atClosed, runsClosed, placedClosed, -⟩ := runsInner.drop placedInner
  obtain ⟨ended, stepClosed, -⟩ := runsClosed.uncons
  obtain ⟨-, positionClosed, -, -, -⟩ := stepClosed.tag_inv placedClosed
  have rest : behind.cursor.rest = (inner.flatMap Lexeme.source ++ closed.leading) ++
      closed.span ++ (closed.trailing ++ after.flatMap Lexeme.source) := by
    rw [← runsInner.source rfl]
    simp [Lexeme.source, Tag.source]
  have raw : (opened.blockTo closed inner body).raw.toList =
      inner.flatMap Lexeme.source ++ closed.leading := String.toList_ofList
  refine ⟨Lexeme.bareTags before, Lexeme.bareTags inner, Lexeme.bareTags after, opened.bare,
    closed.bare, before.flatMap Lexeme.source ++ opened.leading, opened.trailing,
    closed.trailing ++ after.flatMap Lexeme.source, ?_, opens, closes, named,
    nests.verdictFrom_eq_none, ?_, ?_, ?_, ?_, rfl, rfl, ?_⟩
  · unfold Lexer.ofText at tags
    rw [Tagging.ofText, tags]
    simp
  · change _ = _ ++ opened.span ++ (_ ++ _ ++ closed.span ++ _)
    rw [raw, ← all]
    simp [Lexeme.source, Tag.source]
  · exact positionOpened
  · change closed.position = Position.start.after (_ ++ opened.span ++ _ ++ _)
    rw [raw, positionClosed]
    congr 1
    simp [Lexeme.source, Tag.source]
  · change opened.trailing = if opened.StandsAlone _ (_ ++ _ ++ closed.span ++ _) then
      Text.takeLine (_ ++ _ ++ closed.span ++ _) else []
    have same : opened.trailing ++ behind.cursor.rest = opened.trailing ++
        (inner.flatMap Lexeme.source ++ closed.leading) ++ closed.span ++
          (closed.trailing ++ after.flatMap Lexeme.source) := by
      rw [rest]
      simp
    rw [raw, ← same]
    exact trailing
  · change opened.delimiters = _
    rw [writtenOpened, inForce]
    rfl

/-- The source of every block is exact and reads again. -/
theorem parse_blocks (delimiters : Delimiters) (plain : delimiters.Plain) (source : String)
    (tree : Node) (parsed : parse delimiters source = .ok tree) (block : Block)
    (inside : block ∈ tree.blocks) :
    block.CutFrom delimiters source.toList ∧ block.Reparses := by
  obtain ⟨nodes, rfl, complete, nests⟩ := (parse_eq_ok_iff delimiters source tree).1 parsed
  rw [Node.blocks] at inside
  obtain ⟨before, opened, inner, closed, after, body, lexemes, opens, closes, named, nestsInner,
    rfl⟩ := nests.exists_tags inside
  have runs := (Lexer.ofText delimiters source.toList).runs_collect plain
  have whole : (Lexer.ofText delimiters source.toList).collect [] =
      ⟨before ++ .tag opened :: (inner ++ .tag closed :: after), none⟩ := by
    rw [← lexemes, ← complete]
    rfl
  rw [whole] at runs
  refine ⟨runs.cutFrom opens closes named nestsInner, ?_⟩
  obtain ⟨atOpened, runsOpened, placedOpened, -⟩ :=
    runs.drop (Lexer.placed_ofText delimiters source.toList)
  obtain ⟨behind, stepOpened, runsInner⟩ := runsOpened.uncons
  obtain ⟨-, -, -, inForce, -⟩ := stepOpened.tag_inv placedOpened
  -- An opening tag changes no delimiters, so the body was read with those that it recorded.
  apply runsInner.reparses nestsInner
  rw [inForce, Tag.delimitersAfter, opens]

theorem parse_blocks_comment :
    parse Delimiters.standard "\x7b\x7b#a\x7d\x7d \x7b\x7b!c\x7d\x7d\nd\x7b\x7b/a\x7d\x7d" =
        .ok (.sequence [.block ⟨["a"]⟩ [.text " ", .comment "c" ⟨7, 0, 0, 7⟩, .text "\nd"]
          " \x7b\x7b!c\x7d\x7d\nd" .standard Position.start]) ∧
      Block.Reparses ⟨⟨["a"]⟩, [.text " ", .comment "c" ⟨7, 0, 0, 7⟩, .text "\nd"],
        " \x7b\x7b!c\x7d\x7d\nd", .standard, Position.start⟩ := by
  have parsed :
      parse Delimiters.standard "\x7b\x7b#a\x7d\x7d \x7b\x7b!c\x7d\x7d\nd\x7b\x7b/a\x7d\x7d" =
        .ok (.sequence [.block ⟨["a"]⟩ [.text " ", .comment "c" ⟨7, 0, 0, 7⟩, .text "\nd"]
          " \x7b\x7b!c\x7d\x7d\nd" .standard Position.start]) := by cbv
  exact ⟨parsed, (parse_blocks Delimiters.standard Delimiters.standard_plain _ _ parsed _
    (List.mem_cons_self ..)).2⟩

end Mustache
