import Mustache.Proofs.Spelling

/-!
# The verdict on a template

Whether a template parses is decided by its tags alone: they are fed to a stack of names, and the
first tag that breaks the nesting, or cannot be read, is reported. The tree of a template that
parses holds every tag in the sections that were open when it was met.
-/

namespace Mustache

set_option autoImplicit false

namespace Tagging

/-- Feeds tags to a stack of open sections, innermost first, each a name and the place of its tag.
`failure` is why there are no more tags, if the last one could not be read. -/
def verdictFrom (failure : Option Failure) (sections : List (List Char × Position))
    (tags : List Tag) : Option Failure :=
  match tags with
  | [] =>
    match sections with
    | [] => failure
    | (name, position) :: _ =>
      some (failure.getD ⟨.unclosedSection (String.ofList name), position⟩)
  | tag :: rest =>
    match tag.kind with
    | .openSection _ => verdictFrom failure ((tag.content, tag.position) :: sections) rest
    | .closeSection =>
      match sections with
      | [] => some ⟨.closingUnopened tag.name, tag.position⟩
      | (name, position) :: outer =>
        if name = tag.content then verdictFrom failure outer rest
        else some ⟨.unclosedSection (String.ofList name), position⟩
    | _ => verdictFrom failure sections rest

/-- The first violation in a text, if there is any. -/
def verdict (tagging : Tagging) : Option Failure :=
  verdictFrom tagging.failure [] tagging.tags

/-- The tags that leave something in the tree, each with the sections around it, innermost first.
A close tag ends the innermost section. -/
def placementsFrom (around : List Mark) (tags : List Tag) : List (List Mark × Mark) :=
  match tags with
  | [] => []
  | tag :: rest =>
    match tag.kind with
    | .openSection _ => (around, tag.mark) :: placementsFrom (tag.mark :: around) rest
    | .closeSection => placementsFrom around.tail rest
    | _ => (around, tag.mark) :: placementsFrom around rest

def placements (tagging : Tagging) : List (List Mark × Mark) := placementsFrom [] tagging.tags

end Tagging

mutual

/-- The tags in a node, each with the sections around it. What a partial is indented by depends on
its line and is left out. -/
def Node.placements (around : List Mark) : Node → List (List Mark × Mark)
  | .sequence children => Node.placementsAll around children
  | .text _ => []
  | .block path body _ _ position =>
    (around, .opened false path position) ::
      Node.placementsAll (.opened false path position :: around) body
  | .inverted path body position =>
    (around, .opened true path position) ::
      Node.placementsAll (.opened true path position :: around) body
  | .partialTag name _ position => [(around, .leaf (.partialTag name "" position))]
  | .escaped path position => [(around, .leaf (.escaped path position))]
  | .unescaped path position => [(around, .leaf (.unescaped path position))]
  | .comment content position => [(around, .leaf (.comment content position))]
  | .delimiters pair position => [(around, .leaf (.delimiters pair position))]

def Node.placementsAll (around : List Mark) : List Node → List (List Mark × Mark)
  | [] => []
  | first :: rest => first.placements around ++ Node.placementsAll around rest

end

namespace Tagging

variable (failure : Option Failure) (sections : List (List Char × Position)) (around : List Mark)
  (rest : List Tag)

theorem verdictFrom_leaf {tag : Tag} {node : Node} (known : tag.node? = some node) :
    verdictFrom failure sections (tag :: rest) = verdictFrom failure sections rest := by
  unfold Tag.node? at known
  cases kind : tag.kind <;> simp_all [verdictFrom]

theorem verdictFrom_open {tag : Tag} {inverted : Bool} (opens : tag.kind = .openSection inverted) :
    verdictFrom failure sections (tag :: rest) =
      verdictFrom failure ((tag.content, tag.position) :: sections) rest := by
  simp [verdictFrom, opens]

theorem verdictFrom_close_nil {tag : Tag} (closes : tag.kind = .closeSection) :
    verdictFrom failure [] (tag :: rest) = some ⟨.closingUnopened tag.name, tag.position⟩ := by
  simp [verdictFrom, closes]

theorem verdictFrom_close_cons {tag : Tag} (closes : tag.kind = .closeSection) (name : List Char)
    (position : Position) :
    verdictFrom failure ((name, position) :: sections) (tag :: rest) =
      if name = tag.content then verdictFrom failure sections rest
      else some ⟨.unclosedSection (String.ofList name), position⟩ := by
  simp [verdictFrom, closes]

theorem placementsFrom_leaf {tag : Tag} {node : Node} (known : tag.node? = some node) :
    placementsFrom around (tag :: rest) = (around, tag.mark) :: placementsFrom around rest := by
  unfold Tag.node? at known
  cases kind : tag.kind <;> simp_all [placementsFrom]

theorem placementsFrom_open {tag : Tag} {inverted : Bool}
    (opens : tag.kind = .openSection inverted) :
    placementsFrom around (tag :: rest) =
      (around, tag.mark) :: placementsFrom (tag.mark :: around) rest := by
  simp [placementsFrom, opens]

theorem placementsFrom_close {tag : Tag} (closes : tag.kind = .closeSection) :
    placementsFrom around (tag :: rest) = placementsFrom around.tail rest := by
  simp [placementsFrom, closes]

end Tagging

theorem Tag.node?_bare {tag : Tag} {node : Node} (known : tag.node? = some node) :
    ∃ bareNode, tag.bare.node? = some bareNode ∧
      ∀ around, node.placements around = [(around, tag.bare.mark)] := by
  have kept : tag.bare.kind = tag.kind := rfl
  unfold Tag.mark
  unfold Tag.node? at known ⊢
  rw [kept]
  cases kind : tag.kind <;> rw [kind] at known <;> cases known <;>
    exact ⟨_, rfl, fun _ => by rw [Node.placements]; rfl⟩

namespace TreeBuilder

/-- The names on the stack and the places of their tags. -/
def names (builder : TreeBuilder) : List (List Char × Position) :=
  builder.sections.map fun opened => (opened.name, opened.position)

/-- The builder stops at the first violation, and otherwise keeps the stack of names. -/
theorem verdictFrom_addAll (failure : Option Failure) (builder : TreeBuilder)
    (lexemes : List Lexeme) :
    Tagging.verdictFrom failure builder.names (Lexeme.bareTags lexemes) =
      match builder.addAll lexemes with
      | .error violation => some violation
      | .ok next => Tagging.verdictFrom failure next.names [] := by
  induction lexemes generalizing builder with
  | nil => rfl
  | cons lexeme rest ih =>
    cases lexeme with
    | text content =>
      exact ih { builder with
        nodes := addText builder.nodes content
        raw := content :: builder.raw }
    | tag tag =>
      rw [Lexeme.bareTags_tag, addAll, add]
      rcases exists_node_or tag with ⟨node, known⟩ | ⟨inverted, opens⟩ | closes
      · obtain ⟨bareNode, bareKnown, -⟩ := Tag.node?_bare known
        rw [addTag_of_leaf builder known, Tagging.verdictFrom_leaf failure _ _ bareKnown]
        exact ih ⟨node :: (tag.literal.reverse ++ builder.nodes), tag.source :: builder.raw,
          builder.sections⟩
      · have bareOpens : tag.bare.kind = .openSection inverted := opens
        rw [addTag_of_open builder opens, Tagging.verdictFrom_open failure _ _ bareOpens]
        exact ih ⟨[], [], builder.opening tag inverted :: builder.sections⟩
      · have bareCloses : tag.bare.kind = .closeSection := closes
        rw [addTag_of_close builder closes, close]
        cases known : builder.sections with
        | nil =>
          rw [names, known]
          exact Tagging.verdictFrom_close_nil failure _ bareCloses
        | cons opened outer =>
          rw [names, known, List.map_cons, Tagging.verdictFrom_close_cons failure _ _ bareCloses]
          change (if opened.name = tag.content then _ else _) = _
          by_cases named : opened.name = tag.content
          · simp only [named, if_true]
            exact ih ⟨_, _, outer⟩
          · simp only [named, if_false]

end TreeBuilder

/-- The tree of a row of lexemes, or the first violation. -/
theorem Lexing.toNodes_eq_verdict (lexing : Lexing) :
    (∀ failure, Tagging.verdictFrom lexing.failure [] (Lexeme.bareTags lexing.lexemes) =
      some failure → lexing.toNodes = .error failure) ∧
    (Tagging.verdictFrom lexing.failure [] (Lexeme.bareTags lexing.lexemes) = none →
      ∃ nodes, lexing.toNodes = .ok nodes) := by
  -- The builder's open sections are the verdict's names, and a failure to read comes after both.
  have followed := TreeBuilder.verdictFrom_addAll lexing.failure TreeBuilder.empty lexing.lexemes
  change Tagging.verdictFrom lexing.failure [] _ = _ at followed
  rw [followed]
  unfold toNodes
  cases TreeBuilder.empty.addAll lexing.lexemes with
  | error violation =>
    refine ⟨?_, by simp⟩
    intro failure same
    cases same
    rfl
  | ok builder =>
    dsimp only
    unfold TreeBuilder.finish TreeBuilder.names
    cases builder.sections with
    | nil =>
      cases lexing.failure with
      | none => exact ⟨by simp [Tagging.verdictFrom], fun _ => ⟨builder.nodes.reverse, rfl⟩⟩
      | some violation => simp [Tagging.verdictFrom]
    | cons opened outer =>
      cases lexing.failure with
      | none => simp [Tagging.verdictFrom]
      | some violation => simp [Tagging.verdictFrom]

/-- The verdict on a text is the outcome of parsing it. -/
theorem parse_of_verdict {delimiters : Delimiters} (plain : delimiters.Plain) (source : String) :
    (∀ failure, (Tagging.ofText delimiters source.toList).verdict = some failure →
      parse delimiters source = .error (failure.report source)) ∧
    ((Tagging.ofText delimiters source.toList).verdict = none →
      ∃ tree, parse delimiters source = .ok tree) := by
  obtain ⟨tags, failure⟩ := Lexing.tags_ofText plain source.toList
  have made := (Lexing.ofText delimiters source.toList).toNodes_eq_verdict
  unfold Tagging.verdict parse
  rw [tags, failure]
  constructor
  · intro violation found
    rw [made.1 violation found]
  · intro none
    obtain ⟨nodes, ok⟩ := made.2 none
    exact ⟨.sequence nodes, by rw [ok]⟩

theorem exists_parse_iff_verdict {delimiters : Delimiters} (plain : delimiters.Plain)
    (source : String) : (∃ tree, parse delimiters source = .ok tree) ↔
      (Tagging.ofText delimiters source.toList).verdict = none := by
  obtain ⟨failed, parsed⟩ := parse_of_verdict plain source
  refine ⟨?_, parsed⟩
  rintro ⟨tree, ok⟩
  cases known : (Tagging.ofText delimiters source.toList).verdict with
  | none => rfl
  | some failure =>
    rw [failed failure known] at ok
    cases ok

namespace Node

theorem placementsAll_append (around : List Mark) (first second : List Node) :
    placementsAll around (first ++ second) =
      placementsAll around first ++ placementsAll around second := by
  induction first with
  | nil => rfl
  | cons node first ih => simp [placementsAll, ih]

theorem placementsAll_literal (around : List Mark) (text : List Char) :
    placementsAll around (literal text) = [] := by
  unfold literal
  split
  · rfl
  · simp [placementsAll, placements]

theorem placementsAll_tagLiteral (around : List Mark) (tag : Tag) :
    placementsAll around tag.literal = [] := by
  unfold Tag.literal
  split
  · rfl
  · exact placementsAll_literal around tag.leading

theorem placements_enclose {tag : Tag} {inverted : Bool} (opens : tag.kind = .openSection inverted)
    (around : List Mark) (body : List Node) (raw : List Char) :
    (tag.enclose inverted body raw).placements around =
      (around, tag.bare.mark) :: placementsAll (tag.bare.mark :: around) body := by
  have marked : tag.bare.mark = .opened inverted (Path.parse tag.content) tag.position := by
    simp [Tag.mark, Tag.node?, Tag.bare, opens]
  rw [marked]
  unfold Tag.enclose
  cases inverted with
  | true => simp [placements]
  | false => simp [placements]

end Node

/-- Nested lexemes make a tree that holds each tag in the sections that are open around it. -/
theorem Nests.placements {lexemes : List Lexeme} {nodes : List Node} (nests : Nests lexemes nodes)
    (around : List Mark) (more : List Tag) :
    Tagging.placementsFrom around (Lexeme.bareTags lexemes ++ more) =
      Node.placementsAll around nodes ++ Tagging.placementsFrom around more := by
  induction nests generalizing around more with
  | nil => rfl
  | text content later ih =>
    rw [Node.placementsAll_append, Node.placementsAll_literal, List.nil_append,
      Lexeme.bareTags_text, ih]
  | leaf tag node known later ih =>
    obtain ⟨bareNode, bareKnown, placed⟩ := Tag.node?_bare known
    rw [Node.placementsAll_append, Node.placementsAll_tagLiteral, List.nil_append,
      Lexeme.bareTags_tag, List.cons_append, Tagging.placementsFrom_leaf _ _ bareKnown, ih,
      Node.placementsAll, placed]
    rfl
  | enclosed opened closed inverted opens closes named inside later ihInside ih =>
    have bareOpens : opened.bare.kind = .openSection inverted := opens
    have bareCloses : closed.bare.kind = .closeSection := closes
    rw [Node.placementsAll_append, Node.placementsAll_tagLiteral, List.nil_append,
      Lexeme.bareTags_tag, List.cons_append, Tagging.placementsFrom_open _ _ bareOpens,
      Lexeme.bareTags_append, Lexeme.bareTags_tag, List.append_assoc, ihInside, List.cons_append,
      Tagging.placementsFrom_close _ _ bareCloses, List.tail_cons, ih, Node.placementsAll,
      Node.placements_enclose opens, Node.placementsAll_append, Node.placementsAll_tagLiteral]
    simp

/-- A template parses exactly if its tags can all be read and pair up by name, innermost first;
otherwise the first violation is reported. The tree then holds every tag where it was met. -/
theorem parse_verdict (delimiters : Delimiters) (plain : delimiters.Plain) (source : String) :
    (∀ failure, (Tagging.ofText delimiters source.toList).verdict = some failure →
      parse delimiters source = .error (failure.report source)) ∧
    ((Tagging.ofText delimiters source.toList).verdict = none →
      ∃ tree, parse delimiters source = .ok tree ∧
        tree.placements [] = (Tagging.ofText delimiters source.toList).placements) := by
  obtain ⟨tags, failure⟩ := Lexing.tags_ofText plain source.toList
  have made := (Lexing.ofText delimiters source.toList).toNodes_eq_verdict
  unfold Tagging.verdict Tagging.placements
  rw [tags, failure]
  constructor
  · intro violation found
    unfold parse
    rw [made.1 violation found]
  · intro none
    obtain ⟨nodes, ok⟩ := made.2 none
    have nests := ((Lexing.toNodes_eq_ok_iff _ nodes).1 ok).2
    have placed := nests.placements [] []
    rw [List.append_nil] at placed
    refine ⟨.sequence nodes, ?_, ?_⟩
    · unfold parse
      rw [ok]
    · rw [Node.placements, placed]
      simp [Tagging.placementsFrom]

theorem parse_verdict_inverted :
    Delimiters.standard.Plain ∧
      (Tagging.ofText Delimiters.standard
        "\x7b\x7b^a\x7d\x7d-\x7b\x7b/a\x7d\x7d".toList).verdict = none ∧
      (Tagging.ofText Delimiters.standard
        "\x7b\x7b^a\x7d\x7d-\x7b\x7b/a\x7d\x7d".toList).placements =
          [([], .opened true ⟨["a"]⟩ Position.start)] := by
  have decided := parse_verdict Delimiters.standard Delimiters.standard_plain
    "\x7b\x7b^a\x7d\x7d-\x7b\x7b/a\x7d\x7d"
  have parsed : parse Delimiters.standard "\x7b\x7b^a\x7d\x7d-\x7b\x7b/a\x7d\x7d" =
      .ok (.sequence [.inverted ⟨["a"]⟩ [.text "-"] Position.start]) := by cbv
  have accepted : (Tagging.ofText Delimiters.standard
      "\x7b\x7b^a\x7d\x7d-\x7b\x7b/a\x7d\x7d".toList).verdict = none := by
    rw [Option.eq_none_iff_forall_ne_some]
    intro failure found
    have refused := decided.1 failure found
    rw [parsed] at refused
    cases refused
  obtain ⟨tree, same, placed⟩ := decided.2 accepted
  rw [parsed] at same
  cases same
  exact ⟨Delimiters.standard_plain, accepted, placed.symm⟩

end Mustache
