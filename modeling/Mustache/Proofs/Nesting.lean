import Mustache.Parse

/-!
# Nesting

A row of lexemes makes a list of nodes exactly when its open and close tags pair up. The relation
between the two follows the shape of the tree, so what a tree says about its source is proved by
induction on it; the builder, which keeps the open sections on a stack, reaches the same nodes.
-/

namespace Mustache

set_option autoImplicit false

/-- The node of a literal text; an empty one leaves none. -/
def Node.literal (text : List Char) : List Node :=
  if text.isEmpty then [] else [.text (String.ofList text)]

namespace Tag

/-- The literal text before a tag that does not stand alone. -/
def literal (tag : Tag) : List Node := if tag.standalone then [] else Node.literal tag.leading

/-- The node of a tag that neither opens nor closes a section. -/
def node? (tag : Tag) : Option Node :=
  match tag.kind with
  | .escaped => some (.escaped (Path.parse tag.content) tag.position)
  | .unescaped => some (.unescaped (Path.parse tag.content) tag.position)
  | .partialTag => some (.partialTag tag.name (String.ofList tag.indentation) tag.position)
  | .comment => some (.comment tag.name tag.position)
  | .setDelimiters pair => some (.delimiters pair tag.position)
  | .openSection _ => none
  | .closeSection => none

def enclose (tag : Tag) (inverted : Bool) (body : List Node) (raw : List Char) : Node :=
  if inverted then .inverted (Path.parse tag.content) body tag.position
  else .block (Path.parse tag.content) body (String.ofList raw) tag.delimiters tag.position

end Tag

/-- The lexemes nest properly, and the nodes are what they make. -/
inductive Nests : List Lexeme → List Node → Prop where
  | nil : Nests [] []
  | text (content : List Char) {lexemes : List Lexeme} {nodes : List Node}
      (later : Nests lexemes nodes) :
      Nests (.text content :: lexemes) (Node.literal content ++ nodes)
  | leaf (tag : Tag) (node : Node) (known : tag.node? = some node) {lexemes : List Lexeme}
      {nodes : List Node} (later : Nests lexemes nodes) :
      Nests (.tag tag :: lexemes) (tag.literal ++ node :: nodes)
  | enclosed (opened closed : Tag) (inverted : Bool) (opens : opened.kind = .openSection inverted)
      (closes : closed.kind = .closeSection) (named : opened.content = closed.content)
      {inner lexemes : List Lexeme} {body nodes : List Node} (inside : Nests inner body)
      (later : Nests lexemes nodes) :
      Nests (.tag opened :: (inner ++ .tag closed :: lexemes))
        (opened.literal ++ opened.enclose inverted (body ++ closed.literal)
          (inner.flatMap Lexeme.source ++ closed.leading) :: nodes)

theorem Nests.append {first second : List Lexeme} {left right : List Node}
    (front : Nests first left) (back : Nests second right) :
    Nests (first ++ second) (left ++ right) := by
  induction front with
  | nil => exact back
  | text content later ih =>
    rw [List.cons_append, List.append_assoc]
    exact .text content ih
  | leaf tag node known later ih =>
    rw [List.cons_append, List.append_assoc]
    exact .leaf tag node known ih
  | enclosed opened closed inverted opens closes named inside later ihInside ih =>
    rw [List.cons_append, List.append_assoc, List.cons_append, List.append_assoc]
    exact .enclosed opened closed inverted opens closes named inside ih

namespace TreeBuilder

theorem addText_eq (nodes : List Node) (text : List Char) :
    addText nodes text = (Node.literal text).reverse ++ nodes := by
  unfold addText Node.literal
  split <;> rfl

theorem literal_reverse (tag : Tag) (nodes : List Node) :
    (if tag.standalone then nodes else addText nodes tag.leading) =
      tag.literal.reverse ++ nodes := by
  unfold Tag.literal
  rw [addText_eq]
  split <;> rfl

theorem addTag_of_leaf (builder : TreeBuilder) {tag : Tag} {node : Node}
    (known : tag.node? = some node) :
    builder.addTag tag = .ok ⟨node :: (tag.literal.reverse ++ builder.nodes),
      tag.source :: builder.raw, builder.sections⟩ := by
  unfold Tag.node? at known
  unfold addTag
  rw [literal_reverse]
  cases kind : tag.kind with
  | openSection inverted => simp [kind] at known
  | closeSection => simp [kind] at known
  | _ => simp_all

def opening (builder : TreeBuilder) (tag : Tag) (inverted : Bool) : OpenSection :=
  ⟨tag.content, inverted, tag.position, tag.delimiters, tag.source,
    tag.literal.reverse ++ builder.nodes, builder.raw⟩

theorem addTag_of_open (builder : TreeBuilder) {tag : Tag} {inverted : Bool}
    (opens : tag.kind = .openSection inverted) :
    builder.addTag tag = .ok ⟨[], [], builder.opening tag inverted :: builder.sections⟩ := by
  unfold addTag
  rw [literal_reverse, opens]
  rfl

theorem addTag_of_close (builder : TreeBuilder) {tag : Tag} (closes : tag.kind = .closeSection) :
    builder.addTag tag = builder.close (tag.literal.reverse ++ builder.nodes) tag := by
  unfold addTag
  rw [literal_reverse, closes]

theorem addAll_append (builder : TreeBuilder) (first second : List Lexeme) :
    builder.addAll (first ++ second) =
      (builder.addAll first).bind fun next => next.addAll second := by
  induction first generalizing builder with
  | nil => rfl
  | cons lexeme first ih =>
    rw [List.cons_append, addAll, addAll]
    cases builder.add lexeme with
    | error failure => rfl
    | ok next => exact ih next

/-- The builder with more nodes and more source in the innermost body. -/
def Extends (builder next : TreeBuilder) (nodes : List Node) (source : List Char) : Prop :=
  next.nodes = nodes.reverse ++ builder.nodes ∧
    next.raw.reverse.flatten = builder.raw.reverse.flatten ++ source ∧
    next.sections = builder.sections

/-- Lexemes that nest leave the open sections as they are. -/
theorem addAll_of_nests {lexemes : List Lexeme} {nodes : List Node} (nests : Nests lexemes nodes)
    (builder : TreeBuilder) : ∃ next, builder.addAll lexemes = .ok next ∧
      builder.Extends next nodes (lexemes.flatMap Lexeme.source) := by
  induction nests generalizing builder with
  | nil => exact ⟨builder, rfl, rfl, by simp, rfl⟩
  | text content later ih =>
    obtain ⟨next, added, nodes, raw, sections⟩ := ih { builder with
      nodes := addText builder.nodes content, raw := content :: builder.raw }
    refine ⟨next, added, ?_, ?_, sections⟩
    · rw [nodes, addText_eq]
      simp
    · rw [raw]
      simp [Lexeme.source]
  | leaf tag node known later ih =>
    obtain ⟨next, added, nodes, raw, sections⟩ :=
      ih ⟨node :: (tag.literal.reverse ++ builder.nodes), tag.source :: builder.raw,
        builder.sections⟩
    refine ⟨next, ?_, ?_, ?_, sections⟩
    · rw [addAll, add, addTag_of_leaf builder known]
      exact added
    · rw [nodes]
      simp
    · rw [raw]
      simp [Lexeme.source]
  | enclosed opened closed inverted opens closes named inside later ihInside ih =>
    rename_i inner lexemes body nodes
    obtain ⟨within, addedInside, nodesInside, rawInside, sectionsInside⟩ :=
      ihInside ⟨[], [], builder.opening opened inverted :: builder.sections⟩
    have closedNow : within.add (.tag closed) = .ok ⟨opened.enclose inverted
        (body ++ closed.literal) (inner.flatMap Lexeme.source ++ closed.leading) ::
          (opened.literal.reverse ++ builder.nodes),
        (closed.span ++ closed.trailing) :: (closed.leading :: within.raw).reverse.flatten ::
          opened.source :: builder.raw, builder.sections⟩ := by
      have rawWithin : (closed.leading :: within.raw).reverse.flatten =
          inner.flatMap Lexeme.source ++ closed.leading := by
        simpa using rawInside
      rw [add, addTag_of_close within closes, close, sectionsInside]
      dsimp only [opening]
      rw [if_pos named, nodesInside, rawWithin]
      simp [sectionNode, Tag.enclose]
    obtain ⟨next, added, nodesNext, rawNext, sectionsNext⟩ := ih ⟨opened.enclose inverted
        (body ++ closed.literal) (inner.flatMap Lexeme.source ++ closed.leading) ::
          (opened.literal.reverse ++ builder.nodes),
        (closed.span ++ closed.trailing) :: (closed.leading :: within.raw).reverse.flatten ::
          opened.source :: builder.raw, builder.sections⟩
    refine ⟨next, ?_, ?_, ?_, sectionsNext⟩
    · rw [addAll, add, addTag_of_open builder opens]
      dsimp only
      rw [addAll_append, addedInside]
      change within.addAll (.tag closed :: lexemes) = _
      rw [addAll, closedNow]
      exact added
    · rw [nodesNext]
      simp
    · rw [rawNext]
      dsimp only at rawInside
      simp [rawInside, Lexeme.source, Tag.source]

/-- The builder holds the nodes of the lexemes it was given, those of open sections on its stack. -/
inductive Built : List Lexeme → TreeBuilder → Prop where
  | outside {lexemes : List Lexeme} {nodes : List Node} (nests : Nests lexemes nodes)
      (raw : List (List Char)) (spelled : raw.reverse.flatten = lexemes.flatMap Lexeme.source) :
      Built lexemes ⟨nodes.reverse, raw, []⟩
  | inside {before lexemes : List Lexeme} {nodes : List Node} {outer : TreeBuilder}
      (around : Built before outer) (opened : Tag) (inverted : Bool)
      (opens : opened.kind = .openSection inverted) (nests : Nests lexemes nodes)
      (raw : List (List Char)) (spelled : raw.reverse.flatten = lexemes.flatMap Lexeme.source) :
      Built (before ++ .tag opened :: lexemes)
        ⟨nodes.reverse, raw, outer.opening opened inverted :: outer.sections⟩

theorem Built.extend {before more : List Lexeme} {nodes : List Node} {builder next : TreeBuilder}
    (built : Built before builder) (nests : Nests more nodes)
    (extended : builder.Extends next nodes (more.flatMap Lexeme.source)) :
    Built (before ++ more) next := by
  obtain ⟨nodesNext, rawNext, sectionsNext⟩ := extended
  obtain ⟨nextNodes, nextRaw, nextSections⟩ := next
  dsimp only at nodesNext rawNext sectionsNext
  subst nodesNext sectionsNext
  cases built with
  | outside earlier raw spelled =>
    rw [← List.reverse_append]
    refine .outside (earlier.append nests) nextRaw ?_
    rw [rawNext, spelled, List.flatMap_append]
  | inside around opened inverted opens earlier raw spelled =>
    rw [← List.reverse_append, List.append_assoc, List.cons_append]
    refine .inside around opened inverted opens (earlier.append nests) nextRaw ?_
    rw [rawNext, spelled, List.flatMap_append]

theorem exists_node_or (tag : Tag) :
    (∃ node, tag.node? = some node) ∨ (∃ inverted, tag.kind = .openSection inverted) ∨
      tag.kind = .closeSection := by
  unfold Tag.node?
  cases tag.kind with
  | openSection inverted => exact .inr (.inl ⟨inverted, rfl⟩)
  | closeSection => exact .inr (.inr rfl)
  | _ => exact .inl ⟨_, rfl⟩

theorem Built.add {before : List Lexeme} {builder next : TreeBuilder} {lexeme : Lexeme}
    (built : Built before builder) (added : builder.add lexeme = .ok next) :
    Built (before ++ [lexeme]) next := by
  cases lexeme with
  | text content =>
    cases added
    have nests := Nests.text content .nil
    refine built.extend nests ⟨?_, ?_, rfl⟩
    · rw [addText_eq]
      simp
    · simp [Lexeme.source]
  | tag tag =>
    rw [TreeBuilder.add] at added
    rcases exists_node_or tag with ⟨node, known⟩ | ⟨inverted, opens⟩ | closes
    · rw [addTag_of_leaf builder known] at added
      cases added
      refine built.extend (.leaf tag node known .nil) ⟨?_, ?_, rfl⟩
      · simp
      · simp [Lexeme.source]
    · rw [addTag_of_open builder opens] at added
      cases added
      exact .inside built tag inverted opens .nil [] rfl
    · rw [addTag_of_close builder closes] at added
      cases built with
      | outside nests raw spelled => cases added
      | inside around opened inverted opens nests raw spelled =>
        rename_i outside lexemes nodes outer
        dsimp only [close, opening] at added
        split at added
        · rename_i named
          cases added
          rw [List.append_assoc]
          refine around.extend (.enclosed opened tag inverted opens closes named nests .nil)
            ⟨?_, ?_, rfl⟩
          · simp [sectionNode, Tag.enclose, spelled]
          · simp [spelled, Lexeme.source, Tag.source]
        · cases added

theorem Built.addAll {before lexemes : List Lexeme} {builder next : TreeBuilder}
    (built : Built before builder) (added : builder.addAll lexemes = .ok next) :
    Built (before ++ lexemes) next := by
  induction lexemes generalizing before builder with
  | nil =>
    cases added
    rwa [List.append_nil]
  | cons lexeme lexemes ih =>
    rw [TreeBuilder.addAll] at added
    cases first : builder.add lexeme with
    | error failure =>
      rw [first] at added
      cases added
    | ok following =>
      rw [first] at added
      have rest := ih (built.add first) added
      rwa [List.append_assoc] at rest

end TreeBuilder

/-- The nodes of a row of lexemes are those that it nests to. -/
theorem Lexing.toNodes_eq_ok_iff (lexing : Lexing) (nodes : List Node) :
    lexing.toNodes = .ok nodes ↔ lexing.failure = none ∧ Nests lexing.lexemes nodes := by
  obtain ⟨lexemes, failure⟩ := lexing
  constructor
  · intro made
    unfold toNodes at made
    split at made
    · cases made
    · rename_i builder added
      split at made
      · cases made
      · rename_i complete
        refine ⟨complete, ?_⟩
        have built : TreeBuilder.Built lexemes builder :=
          (TreeBuilder.Built.outside Nests.nil [] rfl).addAll added
        cases built with
        | outside nests raw spelled =>
          cases made
          simpa using nests
        | inside around opened inverted opens nests raw spelled => cases made
  · rintro ⟨complete, nests⟩
    obtain ⟨builder, added, nodesBuilt, -, closed⟩ :=
      TreeBuilder.addAll_of_nests nests TreeBuilder.empty
    unfold toNodes
    dsimp only at added complete ⊢
    rw [added, complete]
    dsimp only
    rw [TreeBuilder.finish, closed]
    simp [TreeBuilder.empty, nodesBuilt]

end Mustache
