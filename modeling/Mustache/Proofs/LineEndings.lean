import Mustache.Proofs.CarriageReturns
import Mustache.Proofs.FailurePositions

/-!
# Templates with other line endings

A template whose line breaks get a carriage return is read as before, lexeme for lexeme: white space
in tags swallows the carriage returns, a standalone tag takes them along, literal texts keep them.
Every line keeps its number and every column stays.
-/

namespace Mustache

set_option autoImplicit false

/-- The text with `\r\n` for every `\n`. -/
def Text.crlfText (text : String) : String := String.ofList (Text.crlf text.toList)

@[simp]
theorem Text.crlfText_ofList (text : List Char) :
    Text.crlfText (String.ofList text) = String.ofList (Text.crlf text) := by
  rw [crlfText, String.toList_ofList]

def ParseCause.crlf : ParseCause → ParseCause
  | .malformedDelimiters content => .malformedDelimiters (Text.crlfText content)
  | cause => cause

def Failure.crlf (failure : Failure) : Failure := ⟨failure.cause.crlf, failure.position.crlf⟩

/-- The same error in the text with the longer line breaks; its line reads the same. -/
def ParseError.crlf (error : ParseError) : ParseError :=
  ⟨error.cause.crlf, error.position.crlf, error.context⟩

def Tag.crlf (tag : Tag) : Tag :=
  { tag with
    content := Text.crlf tag.content
    position := tag.position.crlf
    leading := Text.crlf tag.leading
    front := Text.crlf tag.front
    back := Text.crlf tag.back
    trailing := Text.crlf tag.trailing }

def Lexeme.crlf : Lexeme → Lexeme
  | .text content => .text (Text.crlf content)
  | .tag found => .tag found.crlf

def Lexer.crlf (lexer : Lexer) : Lexer := ⟨lexer.delimiters, lexer.cursor.crlf⟩

def Lexing.crlf (lexing : Lexing) : Lexing :=
  ⟨lexing.lexemes.map Lexeme.crlf, lexing.failure.map Failure.crlf⟩

theorem Cursor.Passes.notMem {cursor next : Cursor} {consumed : List Char} {character : Char}
    (passes : cursor.Passes consumed next) (absent : character ∉ cursor.rest) :
    character ∉ next.rest := by
  rw [passes.1, List.mem_append, not_or] at absent
  exact absent.2

namespace Tag

theorem freeContent_crlf (sigil : Sigil) (raw : List Char) :
    freeContent sigil (Text.crlf raw) = Text.crlf (freeContent sigil raw) := by
  unfold freeContent
  rw [Text.getLast?_crlf]
  split
  · rename_i repeated
    obtain ⟨front, rfl⟩ := List.getLast?_eq_some_iff.1 repeated
    have other : sigil.char ≠ '\n' := by cases sigil <;> decide
    rw [Text.crlf_append, Text.crlf_cons other, Text.crlf_nil, List.dropLast_concat,
      List.dropLast_concat, Text.trimEnd_crlf]
  · rw [Text.trimEnd_crlf]

theorem content?_crlf (sigil : Option Sigil) {closing : List Char}
    (unbroken : Text.Unbroken closing) (cursor : Cursor) :
    content? sigil closing cursor.crlf =
      (content? sigil closing cursor).map fun found => (Text.crlf found.1, found.2.crlf) := by
  have named : some (cursor.crlf.takeWhile isNameChar) =
      (some (cursor.takeWhile isNameChar)).map fun found => (Text.crlf found.1, found.2.crlf) :=
    congrArg some (cursor.takeWhile_crlf rfl)
  unfold content?
  cases sigil with
  | none => exact named
  | some sigil =>
    dsimp only
    split
    · rw [cursor.until?_crlf unbroken]
      cases cut : cursor.until? closing with
      | none => rfl
      | some raw =>
        have passes := cursor.passes_until? raw.2 closing raw.1 cut
        have kept := freeContent_prefix sigil raw.1
        have begins := kept.trans ⟨raw.2.rest, passes.1.symm⟩
        simp only [Option.map_some]
        rw [freeContent_crlf, cursor.take_crlf begins, cursor.take_length begins]
    · exact named

theorem kindOf_crlf (sigil : Option Sigil) (content : List Char) :
    TagKind.of? sigil (Text.crlf content) = TagKind.of? sigil content := by
  unfold TagKind.of? Delimiters.parse?
  rw [Text.words_crlf]

def crlfRead (read : Except Failure (Tag × Cursor)) : Except Failure (Tag × Cursor) :=
  (read.mapError Failure.crlf).map fun found => (found.1.crlf, found.2.crlf)

theorem takeOne_sigil_crlf (cursor : Cursor) :
    (cursor.crlf.takeOne fun character => (Sigil.ofChar? character).isSome) =
        ((cursor.takeOne fun character => (Sigil.ofChar? character).isSome).1,
          (cursor.takeOne fun character => (Sigil.ofChar? character).isSome).2.crlf) ∧
      Text.crlf (cursor.takeOne fun character => (Sigil.ofChar? character).isSome).1 =
        (cursor.takeOne fun character => (Sigil.ofChar? character).isSome).1 :=
  cursor.takeOne_crlf rfl rfl

theorem takeOne_closing_crlf (sigil : Option Sigil) (cursor : Cursor) :
    (cursor.crlf.takeOne fun character => sigil.map Sigil.closingChar == some character) =
        ((cursor.takeOne fun character => sigil.map Sigil.closingChar == some character).1,
          (cursor.takeOne fun character =>
            sigil.map Sigil.closingChar == some character).2.crlf) ∧
      Text.crlf (cursor.takeOne fun character =>
          sigil.map Sigil.closingChar == some character).1 =
        (cursor.takeOne fun character => sigil.map Sigil.closingChar == some character).1 := by
  apply cursor.takeOne_crlf
  · cases sigil with
    | none => rfl
    | some sigil => cases sigil <;> rfl
  · cases sigil with
    | none => rfl
    | some sigil => cases sigil <;> rfl

theorem scanInside_crlf {delimiters : Delimiters} (plain : delimiters.Plain) (atLineStart : Bool)
    (leading : List Char) (position : Position) {inside : Cursor} (noReturn : '\r' ∉ inside.rest) :
    scanInside delimiters atLineStart (Text.crlf leading) position.crlf inside.crlf =
      crlfRead (scanInside delimiters atLineStart leading position inside) := by
  have marked : Text.crlf delimiters.mark = delimiters.mark :=
    Text.crlf_of_notMem (Text.unbroken_of_plain plain.mark).1
  have closed := Text.unbroken_of_plain plain.closing
  have closing := Text.crlf_of_notMem closed.1
  have spaces : Text.isTagSpace '\r' = Text.isTagSpace '\n' := rfl
  have blanks : Text.isBlank '\r' = Text.isBlank '\n' := rfl
  -- One reader after the other; the text behind each has no carriage return either.
  obtain ⟨sigilRead, sigilSame⟩ := takeOne_sigil_crlf inside
  have toSigil := (inside.passes_takeOne fun character =>
    (Sigil.ofChar? character).isSome).notMem noReturn
  unfold scanInside
  dsimp only
  rw [sigilRead]
  generalize inside.takeOne _ = sigilText at sigilSame toSigil ⊢
  dsimp only
  rw [Cursor.takeWhile_crlf _ spaces]
  have toSpace := (sigilText.2.passes_takeWhile Text.isTagSpace).notMem toSigil
  generalize sigilText.2.takeWhile Text.isTagSpace = space at toSpace ⊢
  dsimp only
  rw [content?_crlf _ closed]
  cases found : content? _ delimiters.closing.toList space.2 with
  | none => rfl
  | some content =>
    have toContent := (passes_content? _ _ _ _ found).notMem toSpace
    dsimp only [Option.map_some]
    rw [Text.isEmpty_crlf]
    split
    · rfl
    · rw [Cursor.takeWhile_crlf _ spaces]
      have toSpaceAfter := (content.2.passes_takeWhile Text.isTagSpace).notMem toContent
      generalize content.2.takeWhile Text.isTagSpace = spaceAfter at toSpaceAfter ⊢
      dsimp only
      obtain ⟨closingRead, closingSame⟩ := takeOne_closing_crlf
        (sigilText.1.head?.bind Sigil.ofChar?) spaceAfter.2
      have toClosing := (spaceAfter.2.passes_takeOne fun character =>
        (sigilText.1.head?.bind Sigil.ofChar?).map Sigil.closingChar == some character).notMem
          toSpaceAfter
      rw [closingRead]
      generalize spaceAfter.2.takeOne _ = closingSigil at closingSame toClosing ⊢
      dsimp only
      rw [Cursor.literal?_crlf _ closed]
      cases ended : closingSigil.2.literal? delimiters.closing.toList with
      | none => rfl
      | some after =>
        have toEnd := (Cursor.passes_literal? _ _ _ ended).1.notMem toClosing
        dsimp only [Option.map_some]
        rw [kindOf_crlf]
        cases TagKind.of? _ content.1 with
        | none => simp [crlfRead, Except.mapError, Except.map, Failure.crlf, ParseCause.crlf]
        | some kind =>
          have toBlanks := (after.passes_takeWhile Text.isBlank).notMem toEnd
          dsimp only
          rw [Cursor.blankToLineEnd_crlf _ toEnd, Cursor.takeWhile_crlf _ blanks]
          dsimp only
          rw [Cursor.takeLineBreak_crlf _ toBlanks]
          split
          · simp [crlfRead, Except.mapError, Except.map, Tag.crlf, marked, sigilSame, closingSame,
              closing]
          · simp [crlfRead, Except.mapError, Except.map, Tag.crlf, marked, sigilSame, closingSame,
              closing]

theorem scan?_crlf {delimiters : Delimiters} (plain : delimiters.Plain) {cursor : Cursor}
    (noReturn : '\r' ∉ cursor.rest) :
    scan? delimiters cursor.crlf = (scan? delimiters cursor).map crlfRead := by
  have marked := Text.unbroken_of_plain plain.mark
  have toBlanks := (cursor.passes_takeWhile Text.isBlank).notMem noReturn
  unfold scan?
  dsimp only
  rw [Cursor.takeWhile_crlf _ rfl]
  dsimp only
  rw [Cursor.literal?_crlf _ marked]
  cases entered : (cursor.takeWhile Text.isBlank).2.literal? delimiters.mark with
  | none => rfl
  | some inside =>
    have toInside := (Cursor.passes_literal? _ _ _ entered).1.notMem toBlanks
    exact congrArg some (scanInside_crlf plain cursor.atLineStart _ _ toInside)

end Tag

namespace Lexeme

theorem withoutIndentation_crlf (text : List Char) :
    withoutIndentation (Text.crlf text) = Text.crlf (withoutIndentation text) := by
  have kept := Text.dropEnd_crlf (show Text.isBlank '\r' = Text.isBlank '\n' from rfl) text
  unfold withoutIndentation
  dsimp only
  rw [kept, Text.getLast?_crlf]
  split <;> rfl

theorem literal_crlf {mark : List Char} (unbroken : Text.Unbroken mark) {first head : Char}
    {rest tail : List Char} (changed : Text.crlf (first :: rest) = head :: tail) :
    literal mark head tail = Text.crlf (literal mark first rest) := by
  unfold literal
  by_cases newline : first = '\n'
  · subst newline
    rw [Text.crlf_newline, List.cons.injEq] at changed
    obtain ⟨rfl, rfl⟩ := changed
    rw [Text.splitAt?_cons_break unbroken (.inl rfl), Text.splitAt?_crlf unbroken]
    cases Text.splitAt? mark rest with
    | none => exact (Text.crlf_newline rest).symm
    | some cut =>
      simp only [Option.map_some, ← Text.crlf_newline]
      exact withoutIndentation_crlf _
  · rw [Text.crlf_cons newline, List.cons.injEq] at changed
    obtain ⟨rfl, rfl⟩ := changed
    rw [Text.splitAt?_crlf unbroken]
    cases Text.splitAt? mark rest with
    | none => exact (Text.crlf_cons newline rest).symm
    | some cut =>
      simp only [Option.map_some, ← Text.crlf_cons newline]
      exact withoutIndentation_crlf _

theorem literal_begins (mark : List Char) (first : Char) (rest : List Char) :
    literal mark first rest <+: first :: rest := by
  unfold literal
  split
  · exact List.prefix_rfl
  · rename_i before after cut
    refine (withoutIndentation_begins _).trans ?_
    exact ⟨after, congrArg (first :: ·) (Text.splitAt?_append mark rest before after cut)⟩

end Lexeme

namespace Lexer

def crlfRead (read : Except Failure (Lexeme × Lexer)) : Except Failure (Lexeme × Lexer) :=
  (read.mapError Failure.crlf).map fun found => (found.1.crlf, found.2.crlf)

theorem next?_crlf {lexer : Lexer} (plain : lexer.delimiters.Plain)
    (noReturn : '\r' ∉ lexer.cursor.rest) : lexer.crlf.next? = lexer.next?.map crlfRead := by
  have marked := Text.unbroken_of_plain plain.mark
  have scanned : Tag.scan? lexer.crlf.delimiters lexer.crlf.cursor = _ :=
    Tag.scan?_crlf plain noReturn
  unfold next?
  rw [scanned]
  cases ahead : lexer.cursor.rest with
  | nil =>
    have ended : lexer.crlf.cursor.rest = [] := by
      change Text.crlf lexer.cursor.rest = []
      rw [ahead, Text.crlf_nil]
    rw [ended]
    rfl
  | cons first rest =>
    cases changed : Text.crlf (first :: rest) with
    | nil => simp at changed
    | cons head tail =>
      have found : lexer.crlf.cursor.rest = head :: tail := by
        change Text.crlf lexer.cursor.rest = _
        rw [ahead, changed]
      rw [found]
      cases Tag.scan? lexer.delimiters lexer.cursor with
      | some read => cases read <;> rfl
      | none =>
        have begins := Lexeme.literal_begins lexer.delimiters.mark first rest
        rw [← ahead] at begins
        have taken := lexer.cursor.take_crlf begins
        have same := lexer.cursor.take_length begins
        have literal : Lexeme.literal lexer.crlf.delimiters.mark head tail = _ :=
          Lexeme.literal_crlf marked changed
        have moved : lexer.crlf.cursor.take _ = _ := taken
        dsimp only [Option.map_none]
        rw [literal, moved, same]
        rfl

theorem collect_crlf (lexer : Lexer) (plain : lexer.delimiters.Plain)
    (noReturn : '\r' ∉ lexer.cursor.rest) :
    lexer.crlf.collect [] = (lexer.collect []).crlf := by
  induction lexer using stepwise with
  | ended lexer step =>
    have changed : lexer.crlf.next? = none := by rw [next?_crlf plain noReturn, step]; rfl
    rw [collect_of_none [] step, collect_of_none [] changed]
    rfl
  | failed lexer failure step =>
    have changed : lexer.crlf.next? = some (.error failure.crlf) := by
      rw [next?_crlf plain noReturn, step]
      rfl
    rw [collect_of_error [] step, collect_of_error [] changed]
    rfl
  | read lexer next lexeme step ih =>
    have changed : lexer.crlf.next? = some (.ok (lexeme.crlf, next.crlf)) := by
      rw [next?_crlf plain noReturn, step]
      rfl
    have plainNext : next.delimiters.Plain := by
      have steps := lexer.steps_next? plain
      rw [step] at steps
      exact steps.plain plain
    have later := ih plainNext ((lexer.passes_next? next lexeme step).1.notMem noReturn)
    rw [collect_of_ok [] step, collect_of_ok [] changed, collect_eq_cons, collect_eq_cons next,
      later]
    rfl

end Lexer

mutual

/-- The node with the longer line breaks in its texts, every tag on the same line and column. -/
def Node.crlf : Node → Node
  | .sequence children => .sequence (Node.crlfAll children)
  | .text content => .text (Text.crlfText content)
  | .escaped path position => .escaped path position.crlf
  | .unescaped path position => .unescaped path position.crlf
  | .block path body raw pair position =>
    .block path (Node.crlfAll body) (Text.crlfText raw) pair position.crlf
  | .inverted path body position => .inverted path (Node.crlfAll body) position.crlf
  | .partialTag name indentation position => .partialTag name indentation position.crlf
  | .comment content position => .comment (Text.crlfText content) position.crlf
  | .delimiters pair position => .delimiters pair position.crlf

def Node.crlfAll : List Node → List Node
  | [] => []
  | first :: rest => first.crlf :: Node.crlfAll rest

end

namespace Node

theorem crlfAll_append (first second : List Node) :
    crlfAll (first ++ second) = crlfAll first ++ crlfAll second := by
  induction first with
  | nil => rfl
  | cons node first ih => simp [crlfAll, ih]

theorem crlfAll_reverse (nodes : List Node) : crlfAll nodes.reverse = (crlfAll nodes).reverse := by
  induction nodes with
  | nil => rfl
  | cons node nodes ih => simp [crlfAll_append, crlfAll, ih]

theorem crlfAll_literal (text : List Char) : crlfAll (literal text) = literal (Text.crlf text) := by
  unfold literal
  rw [Text.isEmpty_crlf]
  split
  · rfl
  · simp [crlfAll, crlf]

end Node

/-- A tag without line breaks where they would end up in a name or in an indentation. -/
structure Tag.Tidy (tag : Tag) : Prop where
  leading : '\n' ∉ tag.leading
  name : tag.kind.hasName = true → '\n' ∉ tag.content

namespace Tag

variable {tag : Tag}

theorem literal_crlf (tag : Tag) : tag.crlf.literal = Node.crlfAll tag.literal := by
  unfold literal
  change (if tag.standalone then [] else Node.literal (Text.crlf tag.leading)) = _
  split
  · rfl
  · exact (Node.crlfAll_literal _).symm

theorem source_crlf (tag : Tag) : tag.crlf.source = Text.crlf tag.source := by
  simp [source, span, crlf]

theorem node?_crlf (tidy : tag.Tidy) {node : Node} (known : tag.node? = some node) :
    tag.crlf.node? = some node.crlf := by
  have kept : tag.crlf.kind = tag.kind := rfl
  have named (names : tag.kind.hasName = true) : Text.crlf tag.content = tag.content :=
    Text.crlf_of_notMem (tidy.name names)
  have indented : tag.crlf.indentation = tag.indentation := by
    unfold indentation
    change (if tag.standalone then Text.crlf tag.leading else []) = _
    rw [Text.crlf_of_notMem tidy.leading]
  unfold node? at known ⊢
  rw [kept]
  cases kind : tag.kind with
  | openSection inverted => simp [kind] at known
  | closeSection => simp [kind] at known
  | partialTag =>
    rw [kind] at known named
    cases known
    rw [indented]
    simp [Node.crlf, Tag.crlf, Tag.name, named rfl]
  | comment =>
    rw [kind] at known
    cases known
    simp [Node.crlf, Tag.crlf, Tag.name]
  | setDelimiters pair =>
    rw [kind] at known
    cases known
    rfl
  | escaped | unescaped =>
    rw [kind] at known named
    cases known
    simp [Node.crlf, Tag.crlf, named rfl]

end Tag

def OpenSection.crlf (opened : OpenSection) : OpenSection :=
  { opened with
    position := opened.position.crlf
    source := Text.crlf opened.source
    before := Node.crlfAll opened.before
    raw := opened.raw.map Text.crlf }

namespace TreeBuilder

def crlf (builder : TreeBuilder) : TreeBuilder :=
  ⟨Node.crlfAll builder.nodes, builder.raw.map Text.crlf, builder.sections.map OpenSection.crlf⟩

def crlfStep (step : Except Failure TreeBuilder) : Except Failure TreeBuilder :=
  (step.mapError Failure.crlf).map TreeBuilder.crlf

theorem sectionNode_crlf (opened : OpenSection) (body : List Node) (raw : List Char) :
    sectionNode opened.crlf (Node.crlfAll body) (Text.crlf raw) =
      (sectionNode opened body raw).crlf := by
  unfold sectionNode
  change (if opened.inverted then _ else _) = _
  split <;> simp [Node.crlf, OpenSection.crlf]

theorem close_crlf (builder : TreeBuilder) (nodes : List Node) {tag : Tag} (tidy : tag.Tidy)
    (closes : tag.kind = .closeSection) :
    builder.crlf.close (Node.crlfAll nodes) tag.crlf = crlfStep (builder.close nodes tag) := by
  have named : Text.crlf tag.content = tag.content :=
    Text.crlf_of_notMem (tidy.name (by rw [closes]; rfl))
  unfold close
  cases sections : builder.sections with
  | nil =>
    have none : builder.crlf.sections = [] := by simp [crlf, sections]
    rw [none]
    simp [crlfStep, Except.mapError, Except.map, Failure.crlf, ParseCause.crlf, Tag.name, Tag.crlf,
      named]
  | cons opened outer =>
    have some : builder.crlf.sections = opened.crlf :: outer.map OpenSection.crlf := by
      simp [crlf, sections]
    have spelled : (tag.crlf.leading :: builder.crlf.raw).reverse.flatten =
        Text.crlf (tag.leading :: builder.raw).reverse.flatten := by
      rw [← Text.flatten_map_crlf, List.map_reverse]
      rfl
    have span : tag.crlf.span ++ tag.crlf.trailing = Text.crlf (tag.span ++ tag.trailing) := by
      simp [Tag.span, Tag.crlf]
    have kept : tag.crlf.content = tag.content := named
    rw [some]
    dsimp only
    rw [spelled, span, kept, ← Node.crlfAll_reverse, sectionNode_crlf]
    change (if opened.name = tag.content then _ else _) = _
    split
    · rfl
    · rfl

theorem addTag_crlf (builder : TreeBuilder) {tag : Tag} (tidy : tag.Tidy) :
    builder.crlf.addTag tag.crlf = crlfStep (builder.addTag tag) := by
  have nodes : tag.crlf.literal.reverse ++ builder.crlf.nodes =
      Node.crlfAll (tag.literal.reverse ++ builder.nodes) := by
    rw [Tag.literal_crlf, Node.crlfAll_append, Node.crlfAll_reverse]
    rfl
  rcases exists_node_or tag with ⟨node, known⟩ | ⟨inverted, opens⟩ | closes
  · rw [addTag_of_leaf _ known, addTag_of_leaf _ (Tag.node?_crlf tidy known), nodes,
      Tag.source_crlf]
    rfl
  · have named : Text.crlf tag.content = tag.content :=
      Text.crlf_of_notMem (tidy.name (by rw [opens]; rfl))
    have opening : builder.crlf.opening tag.crlf inverted =
        (builder.opening tag inverted).crlf := by
      unfold TreeBuilder.opening
      rw [nodes, Tag.source_crlf]
      exact congrArg (OpenSection.mk · inverted tag.position.crlf tag.delimiters
        (Text.crlf tag.source) _ _) named
    rw [addTag_of_open _ opens, addTag_of_open _ (show tag.crlf.kind = _ from opens), opening]
    rfl
  · rw [addTag_of_close _ closes, addTag_of_close _ (show tag.crlf.kind = _ from closes), nodes]
    exact close_crlf builder _ tidy closes

theorem addAll_crlf (builder : TreeBuilder) {lexemes : List Lexeme}
    (tidy : ∀ tag, .tag tag ∈ lexemes → tag.Tidy) :
    builder.crlf.addAll (lexemes.map Lexeme.crlf) = crlfStep (builder.addAll lexemes) := by
  induction lexemes generalizing builder with
  | nil => rfl
  | cons lexeme lexemes ih =>
    have first : builder.crlf.add lexeme.crlf = crlfStep (builder.add lexeme) := by
      cases lexeme with
      | text content =>
        have added : addText builder.crlf.nodes (Text.crlf content) =
            Node.crlfAll (addText builder.nodes content) := by
          rw [addText_eq, addText_eq, ← Node.crlfAll_literal, Node.crlfAll_append,
            Node.crlfAll_reverse]
          rfl
        change Except.ok (TreeBuilder.mk (addText builder.crlf.nodes (Text.crlf content)) _ _) = _
        rw [added]
        rfl
      | tag tag => exact builder.addTag_crlf (tidy tag List.mem_cons_self)
    rw [List.map_cons, addAll, addAll, first]
    cases builder.add lexeme with
    | error failure => rfl
    | ok next => exact ih next fun tag inside => tidy tag (List.mem_cons_of_mem _ inside)

end TreeBuilder

theorem Lexing.toNodes_crlf (lexing : Lexing) (tidy : ∀ tag, .tag tag ∈ lexing.lexemes → tag.Tidy) :
    lexing.crlf.toNodes = (lexing.toNodes.mapError Failure.crlf).map Node.crlfAll := by
  have built := TreeBuilder.empty.addAll_crlf tidy
  change TreeBuilder.empty.addAll _ = _ at built
  unfold toNodes
  dsimp only [Lexing.crlf]
  rw [built]
  cases TreeBuilder.empty.addAll lexing.lexemes with
  | error failure => rfl
  | ok builder =>
    cases lexing.failure with
    | some failure => rfl
    | none =>
      simp only [TreeBuilder.crlfStep, Except.mapError, Except.map, Option.map_none,
        TreeBuilder.finish]
      cases sections : builder.sections with
      | nil => simp [TreeBuilder.crlf, sections, Node.crlfAll_reverse]
      | cons opened outer =>
        simp [TreeBuilder.crlf, sections, OpenSection.crlf, Failure.crlf, ParseCause.crlf]

namespace Tag

/-- Only blanks are read before a tag, and only name characters in a name. -/
theorem tidy_of_read {lexer next : Lexer} {tag : Tag} (plain : lexer.delimiters.Plain)
    (read : lexer.next? = some (.ok (.tag tag, next))) : tag.Tidy := by
  have steps := lexer.steps_next? plain
  rw [read] at steps
  cases steps with
  | tag leading rest bare settled after next nonempty ahead blanks scanned line =>
    obtain ⟨parts, kind, fits, known, rfl, -, -⟩ := scanBare_inv scanned
    obtain ⟨-, -, same, -, -⟩ := settle_inv rfl line
    rw [same]
    constructor
    · intro inside
      exact absurd (blanks _ inside) (by decide)
    · intro names inside
      have bound : parts.isFree = false := TagKind.bound_of_hasName known names
      exact absurd ((fits.name bound).1 _ inside) (by decide)

end Tag

theorem Lexing.tidy_ofText {delimiters : Delimiters} (plain : delimiters.Plain)
    (text : List Char) : ∀ tag, .tag tag ∈ (Lexing.ofText delimiters text).lexemes → tag.Tidy := by
  obtain ⟨tidy, -⟩ := Lexer.forall_collect (fun lexer => lexer.delimiters.Plain)
    (fun lexeme => ∀ tag, lexeme = .tag tag → tag.Tidy) (fun _ => True)
    (fun lexer next lexeme allowed read => by
      have steps := lexer.steps_next? allowed
      rw [read] at steps
      refine ⟨?_, steps.plain allowed⟩
      rintro tag rfl
      exact Tag.tidy_of_read allowed read)
    (fun _ _ _ _ => trivial) (Lexer.ofText delimiters text) plain
  intro tag inside
  exact tidy _ inside tag rfl

namespace Position

theorem endsLine_crlf {lines : List Char} (ends : Text.EndsLine lines) :
    Text.EndsLine (Text.crlf lines) := by
  rcases ends with rfl | ends
  · exact .inl rfl
  · exact .inr ((Text.getLast?_crlf lines).trans ends)

/-- The first line of a text; a break after it leaves its carriage return there. -/
theorem takeWhile_line_crlf (text : List Char) :
    (Text.crlf text).takeWhile (· != '\n') =
      text.takeWhile (· != '\n') ++ if '\n' ∈ text then ['\r'] else [] := by
  induction text using Text.crlf_cases with
  | nil => rfl
  | newline rest ih => simp
  | other character rest other ih =>
    simp only [Text.crlf_cons other, List.takeWhile_cons, bne_iff_ne.2 other, if_true, ih,
      List.mem_cons, Ne.symm other, false_or, List.cons_append]

/-- The line of a place reads the same in both texts: its carriage return is no part of it. -/
theorem lineAt_crlf {position : Position} {source : List Char} (lies : position.LiesIn source)
    (noReturn : '\r' ∉ source) :
    lineAt position.crlf.lineStart (Text.crlf source) = lineAt position.lineStart source := by
  obtain ⟨front, back, rfl, rfl⟩ := lies
  obtain ⟨lines, current, rfl, ends, unbroken⟩ := Text.exists_lines front
  have moved : (start.after (lines ++ current)).crlf =
      start.after (Text.crlf lines ++ current) := by
    rw [← Position.after_crlf, Text.crlf_append, Text.crlf_of_notMem unbroken]
    rfl
  have here : Text.dropBytes (start.after (lines ++ current)).lineStart
      (lines ++ current ++ back) = current ++ back := by
    rw [lineStart_after ends unbroken, List.append_assoc, Text.dropBytes_byteLength]
  have there : Text.dropBytes (start.after (lines ++ current)).crlf.lineStart
      (Text.crlf (lines ++ current ++ back)) = Text.crlf (current ++ back) := by
    rw [moved, lineStart_after (endsLine_crlf ends) unbroken, List.append_assoc,
      Text.crlf_append, Text.dropBytes_byteLength]
  -- The only carriage return on the line in the longer text is the one before its line break.
  have remaining : '\r' ∉ current ++ back := by
    intro inside
    apply noReturn
    rw [List.append_assoc]
    exact List.mem_append_right _ inside
  have line : '\r' ∉ (current ++ back).takeWhile (· != '\n') :=
    fun inside => remaining ((List.takeWhile_sublist _).subset inside)
  have unended : ¬ ((current ++ back).takeWhile (· != '\n')).getLast? = some '\r' :=
    fun ended => line (List.mem_of_getLast? ended)
  unfold lineAt
  dsimp only
  rw [here, there, takeWhile_line_crlf, if_neg unended]
  split
  · rw [List.getLast?_concat, if_pos rfl, List.dropLast_concat]
  · rw [List.append_nil, if_neg unended]

end Position

theorem Failure.report_crlf {failure : Failure} {source : String}
    (lies : failure.position.LiesIn source.toList) (noReturn : '\r' ∉ source.toList) :
    failure.crlf.report (Text.crlfText source) = (failure.report source).crlf := by
  have line := Position.lineAt_crlf lies noReturn
  unfold report Position.lineText Text.crlfText
  rw [String.toList_ofList]
  dsimp only [Failure.crlf]
  rw [line]
  rfl

/-- A template with carriage returns at its line breaks parses as the one without them. The same
tree comes out, with the longer line breaks in literal texts, raw texts and comments, or the same
error in the same words about the same line; and everything stays on its line and column. -/
theorem parse_crlf (delimiters : Delimiters) (plain : delimiters.Plain) (source : String)
    (noReturn : '\r' ∉ source.toList) :
    parse delimiters (Text.crlfText source) =
      ((parse delimiters source).mapError ParseError.crlf).map Node.crlf := by
  have read : Lexing.ofText delimiters (Text.crlfText source).toList =
      (Lexing.ofText delimiters source.toList).crlf := by
    rw [Text.crlfText, String.toList_ofList]
    exact (Lexer.ofText delimiters source.toList).collect_crlf plain noReturn
  have nodes := Lexing.toNodes_crlf _ (Lexing.tidy_ofText plain source.toList)
  unfold parse
  rw [read, nodes]
  cases made : (Lexing.ofText delimiters source.toList).toNodes with
  | error failure =>
    exact congrArg Except.error (Failure.report_crlf (Lexing.liesIn_toNodes made) noReturn)
  | ok nodes => rfl

theorem parse_crlf_section :
    parse Delimiters.standard "\x7b\x7b#a\x7d\x7d\r\n-\r\n\x7b\x7b/a\x7d\x7d\r\n" =
      .ok (.sequence [.block ⟨["a"]⟩ [.text "-\r\n"] "-\r\n" Delimiters.standard
        Position.start]) := by
  have changed := parse_crlf Delimiters.standard Delimiters.standard_plain
    "\x7b\x7b#a\x7d\x7d\n-\n\x7b\x7b/a\x7d\x7d\n" (by decide)
  have parsed : parse Delimiters.standard "\x7b\x7b#a\x7d\x7d\n-\n\x7b\x7b/a\x7d\x7d\n" =
      .ok (.sequence [.block ⟨["a"]⟩ [.text "-\n"] "-\n" Delimiters.standard
        Position.start]) := by cbv
  rw [parsed] at changed
  exact changed

end Mustache
