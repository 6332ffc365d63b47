import Mathlib
import Mustache.Proofs.CheckedTags

/-!
# Reading at checked offsets

A template read turn by turn over its bytes. An open section is kept with the offset at which its
body begins, and when its close tag comes, however much later, the source of the body is cut out
from there. No offset that is kept or cut at is ever unsound: the reader stands where a reader of
characters would, and what it comes to is the tree or the error of the template.
-/

namespace Mustache

set_option autoImplicit false

/-- An open section and the offset behind its open tag. -/
structure ByteSection where
  name : List Char
  inverted : Bool
  position : Position
  bodyStart : Nat
  delimiters : Delimiters
  /-- The nodes before the section in the same body, newest first. -/
  parent : List Node

/-- A template that is being read over its bytes. -/
structure ByteReader where
  delimiters : Delimiters
  cursor : ByteCursor
  /-- The nodes of the innermost open body, newest first. -/
  nodes : List Node
  /-- The open sections, innermost first. -/
  sections : List ByteSection

namespace ByteReader

def ofText (delimiters : Delimiters) (text : String) : ByteReader :=
  ⟨delimiters, ByteCursor.ofText text, [], []⟩

/-- Ends the innermost section. `nodes` is its body, newest first. -/
def close? (reader : ByteReader) (nodes : List Node) (tag : ByteTag) (next : ByteCursor) :
    Option (Except ParseError ByteReader) :=
  match reader.sections with
  | [] => ByteTag.fail? next.text (.closingUnopened (String.ofList tag.content)) tag.position
  | opened :: outer =>
    if opened.name = tag.content then do
      let raw ← Text.cut? next.text opened.bodyStart tag.position.offset
      let path := Path.parse opened.name
      let node :=
        if opened.inverted then .inverted path nodes.reverse opened.position
        else .block path nodes.reverse (String.ofList raw) opened.delimiters opened.position
      return .ok ⟨reader.delimiters, next, node :: opened.parent, outer⟩
    else ByteTag.fail? next.text (.unclosedSection (String.ofList opened.name)) opened.position

/-- Adds a tag, behind which the cursor is `next`. -/
def addTag? (reader : ByteReader) (tag : ByteTag) (next : ByteCursor) :
    Option (Except ParseError ByteReader) :=
  let nodes :=
    if tag.standalone then reader.nodes else TreeBuilder.addText reader.nodes tag.leading
  let add (delimiters : Delimiters) (node : Node) : Option (Except ParseError ByteReader) :=
    some (.ok ⟨delimiters, next, node :: nodes, reader.sections⟩)
  match tag.kind with
  | .escaped => add reader.delimiters (.escaped (Path.parse tag.content) tag.position)
  | .unescaped => add reader.delimiters (.unescaped (Path.parse tag.content) tag.position)
  | .partialTag =>
    let indentation := if tag.standalone then tag.leading else []
    add reader.delimiters
      (.partialTag (String.ofList tag.content) (String.ofList indentation) tag.position)
  | .comment => add reader.delimiters (.comment (String.ofList tag.content) tag.position)
  | .setDelimiters pair => add pair (.delimiters pair tag.position)
  | .openSection inverted =>
    some (.ok ⟨reader.delimiters, next, [], ⟨tag.content, inverted, tag.position, next.offset,
      reader.delimiters, nodes⟩ :: reader.sections⟩)
  | .closeSection => reader.close? nodes tag next

/-- One turn: a tag, or text if no tag begins at the cursor. -/
def turn? (reader : ByteReader) : Option (Except ParseError ByteReader) := do
  match ← ByteTag.scan? reader.delimiters reader.cursor with
  | .error error => return .error error
  | .ok (some read) => reader.addTag? read.1 read.2
  | .ok none =>
    let text ← reader.cursor.scanText? reader.delimiters
    return .ok { reader with
      cursor := text.2
      nodes := TreeBuilder.addText reader.nodes text.1 }

/-- The finished tree; no section may be open. -/
def finish? (reader : ByteReader) : Option (Except ParseError Node) :=
  match reader.sections with
  | [] => some (.ok (.sequence reader.nodes.reverse))
  | opened :: _ =>
    ByteTag.fail? reader.cursor.text (.unclosedSection (String.ofList opened.name)) opened.position

/-- Takes turns up to the end of the text or the first error. The outcome is missing if more than
`turns` would be needed, and nothing is left of the run if an offset is unsound. -/
def run? (reader : ByteReader) (turns : Nat) : Option (Option (Except ParseError Node)) :=
  if reader.cursor.atEnd then reader.finish?.map some
  else
    match turns with
    | 0 => some none
    | turns + 1 => do
      match ← reader.turn? with
      | .error error => return some (.error error)
      | .ok next => next.run? turns

end ByteReader

/-- The source before the innermost open body. -/
def spelledBefore : List OpenSection → List Char
  | [] => []
  | opened :: outer => spelledBefore outer ++ opened.raw.reverse.flatten ++ opened.source

/-- All source that has been added. -/
def TreeBuilder.spelled (builder : TreeBuilder) : List Char :=
  spelledBefore builder.sections ++ builder.raw.reverse.flatten

/-- The open sections with the offsets at which their bodies begin. -/
def sectionsInBytes : List OpenSection → List ByteSection
  | [] => []
  | opened :: outer => ⟨opened.name, opened.inverted, opened.position,
      Text.byteLength (spelledBefore (opened :: outer)), opened.delimiters, opened.before⟩ ::
        sectionsInBytes outer

def TreeBuilder.inBytes (delimiters : Delimiters) (cursor : ByteCursor) (builder : TreeBuilder) :
    ByteReader :=
  ⟨delimiters, cursor, builder.nodes, sectionsInBytes builder.sections⟩

/-- The byte reader at the place of a reader. -/
def Reader.inBytes (text : String) (reader : Reader) : ByteReader :=
  reader.builder.inBytes reader.lexer.delimiters (reader.lexer.cursor.inBytes text)

mutual

/-- The positions that a node keeps, those of the nodes inside it included. -/
def Node.places : Node → List Position
  | .sequence children => Node.placesAll children
  | .text _ => []
  | .escaped _ position => [position]
  | .unescaped _ position => [position]
  | .block _ body _ _ position => position :: Node.placesAll body
  | .inverted _ body position => position :: Node.placesAll body
  | .partialTag _ _ position => [position]
  | .comment _ position => [position]
  | .delimiters _ position => [position]

def Node.placesAll : List Node → List Position
  | [] => []
  | first :: rest => first.places ++ Node.placesAll rest

end

/-- Whatever holds of places holds of all that the builder keeps. -/
structure TreeBuilder.Keeps (holds : Position → Prop) (builder : TreeBuilder) : Prop where
  nodes : ∀ place ∈ Node.placesAll builder.nodes, holds place
  sections : ∀ opened ∈ builder.sections,
    holds opened.position ∧ ∀ place ∈ Node.placesAll opened.before, holds place

/-- What a tag and the lexer behind it have from the lexer in front of it. -/
structure Lexer.ReadsTag (lexer : Lexer) (tag : Tag) (next : Lexer) : Prop where
  leading : tag.leading = (lexer.cursor.takeWhile Text.isBlank).1
  position : tag.position = (lexer.cursor.takeWhile Text.isBlank).2.position
  delimiters : tag.delimiters = lexer.delimiters
  after : next.delimiters = tag.delimitersAfter
  passes : lexer.cursor.Passes tag.source next.cursor

namespace Lexer

variable {lexer next : Lexer}

/-- Where the open delimiter is found behind blanks, it does not begin with one. -/
theorem visible_of_entered {inside : Cursor}
    (entered : (lexer.cursor.takeWhile Text.isBlank).2.literal? lexer.delimiters.opening.toList =
      some inside) : lexer.delimiters.Visible := by
  obtain ⟨passes, filled⟩ := Cursor.passes_literal? _ _ _ entered
  have stops := Text.stopsAt_dropWhile Text.isBlank lexer.cursor.rest
  obtain ⟨first, others, known⟩ := List.exists_cons_of_ne_nil filled
  have split : lexer.cursor.rest.dropWhile Text.isBlank = first :: (others ++ inside.rest) := by
    have split := passes.1
    rw [known] at split
    exact split
  unfold Delimiters.Visible
  rw [split, Text.stopsAt_cons] at stops
  rw [known, Text.stopsAt_cons]
  exact stops

theorem readsTag {tag : Tag} (read : lexer.scanTag = .ok (some (tag, next))) :
    lexer.ReadsTag tag next := by
  unfold scanTag at read
  dsimp only at read
  cases entered : (lexer.cursor.takeWhile Text.isBlank).2.literal?
      lexer.delimiters.opening.toList with
  | none =>
    rw [entered] at read
    cases read
  | some inside =>
    have visible := visible_of_entered entered
    rw [entered] at read
    cases scanned : Tag.scanInside lexer.delimiters lexer.cursor.atLineStart
        (lexer.cursor.takeWhile Text.isBlank).1 (lexer.cursor.takeWhile Text.isBlank).2.position
        inside with
    | error failure =>
      dsimp only at read
      rw [scanned] at read
      cases read
    | ok pair =>
      dsimp only at read
      rw [scanned] at read
      cases read
      obtain ⟨position, delimiters⟩ := Tag.origin_scanInside scanned
      have found : Tag.scan? lexer.delimiters lexer.cursor = some (.ok pair) := by
        unfold Tag.scan?
        rw [visible.mark_eq]
        dsimp only
        rw [entered, Option.map_some, scanned]
      have entering := (Cursor.passes_literal? _ _ _ entered).1
      rw [← visible.mark_eq] at entering
      have passes := Tag.passes_scanInside _ _ _ _ _ _ _ entering scanned
      exact ⟨passes.2.1, position, delimiters, rfl, (Tag.passes_scan? _ _ _ _ found).1⟩

/-- Whatever a turn reads, it passes over. -/
theorem passes_scanText (lexer : Lexer) :
    lexer.cursor.Passes lexer.scanText.1 lexer.scanText.2.cursor := by
  unfold scanText
  dsimp only
  split
  · exact ⟨(List.append_nil _).symm, rfl⟩
  · exact lexer.cursor.passes_take _

end Lexer

namespace Node

theorem placesAll_eq (nodes : List Node) : placesAll nodes = nodes.flatMap places := by
  induction nodes with
  | nil => rfl
  | cons first rest ih => rw [placesAll, ih, List.flatMap_cons]

theorem mem_placesAll_reverse {nodes : List Node} {place : Position} :
    place ∈ placesAll nodes.reverse ↔ place ∈ placesAll nodes := by
  simp only [placesAll_eq, List.mem_flatMap, List.mem_reverse]

/-- A node that a tag makes on its own keeps the place of the tag and no other. -/
theorem places_of_leaf {tag : Tag} {node : Node} (known : tag.node? = some node) :
    node.places = [tag.position] := by
  unfold Tag.node? at known
  split at known <;> cases known <;> rfl

end Node

namespace TreeBuilder

variable {builder next : TreeBuilder} {lexeme : Lexeme}

@[simp]
theorem placesAll_addText (nodes : List Node) (text : List Char) :
    Node.placesAll (addText nodes text) = Node.placesAll nodes := by
  unfold addText
  split
  · rfl
  · rfl

/-- What is added is spelled behind what was there. -/
theorem spelled_add (added : builder.add lexeme = .ok next) :
    next.spelled = builder.spelled ++ lexeme.source := by
  cases lexeme with
  | text content =>
    cases added
    simp [spelled, Lexeme.source]
  | tag tag =>
    rw [add] at added
    rcases exists_node_or tag with ⟨node, known⟩ | ⟨inverted, opens⟩ | closes
    · rw [addTag_of_leaf builder known] at added
      cases added
      simp [spelled, Lexeme.source]
    · rw [addTag_of_open builder opens] at added
      cases added
      simp [spelled, spelledBefore, opening, Lexeme.source]
    · rw [addTag_of_close builder closes, close] at added
      split at added
      · cases added
      · rename_i opened outer sections
        split at added
        · cases added
          simp [spelled, sections, spelledBefore, Lexeme.source, Tag.source]
        · cases added

theorem placesAll_literal (tag : Tag) (nodes : List Node) :
    Node.placesAll (tag.literal.reverse ++ nodes) = Node.placesAll nodes := by
  rw [← literal_reverse]
  split
  · rfl
  · exact placesAll_addText nodes tag.leading

/-- All places that are kept after a lexeme were kept before or are that of its tag. -/
theorem Keeps.add {holds : Position → Prop} (keeps : builder.Keeps holds)
    (met : ∀ tag, lexeme = .tag tag → holds tag.position) (added : builder.add lexeme = .ok next) :
    next.Keeps holds := by
  cases lexeme with
  | text content =>
    cases added
    exact ⟨by simpa using keeps.nodes, keeps.sections⟩
  | tag tag =>
    have here := met tag rfl
    rw [TreeBuilder.add] at added
    rcases exists_node_or tag with ⟨node, known⟩ | ⟨inverted, opens⟩ | closes
    · rw [addTag_of_leaf builder known] at added
      cases added
      refine ⟨?_, keeps.sections⟩
      rw [Node.placesAll, Node.places_of_leaf known, placesAll_literal]
      simpa using ⟨here, keeps.nodes⟩
    · rw [addTag_of_open builder opens] at added
      cases added
      refine ⟨by simp [Node.placesAll], ?_⟩
      intro opened inside
      rcases List.mem_cons.1 inside with rfl | outer
      · refine ⟨here, ?_⟩
        dsimp only [opening]
        rw [placesAll_literal]
        exact keeps.nodes
      · exact keeps.sections opened outer
    · rw [addTag_of_close builder closes, close] at added
      split at added
      · cases added
      · rename_i opened outer sections
        have around := keeps.sections
        rw [sections] at around
        obtain ⟨begins, before⟩ := around opened List.mem_cons_self
        split at added
        · cases added
          refine ⟨?_, fun other inside => around other (List.mem_cons_of_mem _ inside)⟩
          have body : ∀ place ∈ Node.placesAll (tag.literal.reverse ++ builder.nodes).reverse,
              holds place := by
            intro place inside
            rw [Node.mem_placesAll_reverse, placesAll_literal] at inside
            exact keeps.nodes place inside
          intro place inside
          rw [Node.placesAll, List.mem_append] at inside
          rcases inside with inside | inside
          · unfold sectionNode at inside
            dsimp only at inside
            split at inside
            · rcases List.mem_cons.1 inside with rfl | inside
              · exact begins
              · exact body place inside
            · rcases List.mem_cons.1 inside with rfl | inside
              · exact begins
              · exact body place inside
          · exact before place inside
        · cases added

/-- A tag that cannot be added is blamed itself, or a section that is open. -/
theorem Keeps.refused {holds : Position → Prop} (keeps : builder.Keeps holds) {tag : Tag}
    (here : holds tag.position) {failure : Failure}
    (refused : builder.addTag tag = .error failure) : holds failure.position := by
  rcases exists_node_or tag with ⟨node, known⟩ | ⟨inverted, opens⟩ | closes
  · rw [addTag_of_leaf builder known] at refused
    cases refused
  · rw [addTag_of_open builder opens] at refused
    cases refused
  · rw [addTag_of_close builder closes, close] at refused
    split at refused
    · cases refused
      exact here
    · rename_i opened outer sections
      split at refused
      · cases refused
      · cases refused
        exact (keeps.sections opened (by simp [sections])).1

variable {text : String} {delimiters : Delimiters} {cursor after : ByteCursor} {tag : Tag}

/-- At the place of a builder, a section is ended as that builder ends it. -/
theorem close?_inBytes (source : after.text = text) {rest : List Char}
    (split : text.toList = builder.spelled ++ tag.leading ++ rest)
    (begins : tag.position = Position.start.after (builder.spelled ++ tag.leading))
    (keeps : builder.Keeps fun place => place.LiesIn text.toList) (nodes : List Node) :
    (builder.inBytes delimiters cursor).close? nodes tag.inBytes after =
      some (reported text (inBytes delimiters after) (builder.close nodes tag)) := by
  subst source
  obtain ⟨builderNodes, raw, sections⟩ := builder
  unfold ByteReader.close? close
  cases sections with
  | nil => exact ByteTag.fail?_eq ⟨_, rest, split, begins⟩ _
  | cons opened outer =>
    change (if opened.name = tag.content then
      (Text.cut? after.text (Text.byteLength (spelledBefore (opened :: outer)))
        tag.position.offset).bind _ else _) = some (reported _ _ (if _ then _ else _))
    by_cases named : opened.name = tag.content
    · have offset : tag.position.offset = Text.byteLength
          (spelledBefore (opened :: outer) ++ (tag.leading :: raw).reverse.flatten) := by
        rw [begins, Position.offset_after]
        simp [Position.start, spelled]
      have body : after.text.toList = spelledBefore (opened :: outer) ++
          (tag.leading :: raw).reverse.flatten ++ rest := by
        rw [split]
        simp [spelled]
      rw [if_pos named, if_pos named, offset, Text.cut?_eq body]
      rfl
    · rw [if_neg named, if_neg named]
      exact ByteTag.fail?_eq (keeps.sections opened List.mem_cons_self).1 _

/-- At the place of a builder, a tag is added as that builder adds it. -/
theorem addTag?_inBytes (source : after.text = text) {rest : List Char}
    (split : text.toList = builder.spelled ++ tag.leading ++ rest)
    (begins : tag.position = Position.start.after (builder.spelled ++ tag.leading))
    (passed : after.offset = Text.byteLength (builder.spelled ++ tag.source))
    (written : tag.delimiters = delimiters)
    (keeps : builder.Keeps fun place => place.LiesIn text.toList) :
    (builder.inBytes delimiters cursor).addTag? tag.inBytes after =
      some (reported text (inBytes tag.delimitersAfter after) (builder.addTag tag)) := by
  subst written
  unfold ByteReader.addTag? addTag Tag.delimitersAfter
  dsimp only [Tag.inBytes]
  cases kind : tag.kind with
  | closeSection => exact close?_inBytes source split begins keeps _
  | openSection inverted =>
    have bodyStart : after.offset = Text.byteLength (spelledBefore (⟨tag.content, inverted,
        tag.position, tag.delimiters, tag.source,
        if tag.standalone then builder.nodes else addText builder.nodes tag.leading,
        builder.raw⟩ :: builder.sections)) := passed
    rw [bodyStart]
    rfl
  | _ => rfl

end TreeBuilder

namespace Reader

/-- The reader stands behind what its builder has been given, and keeps places of the text only. -/
structure Follows (text : String) (reader : Reader) : Prop where
  spelled : text.toList = reader.builder.spelled ++ reader.lexer.cursor.rest
  reached : reader.lexer.cursor.position = Position.start.after reader.builder.spelled
  keeps : reader.builder.Keeps fun place => place.LiesIn text.toList

variable {text : String} {reader next : Reader}

theorem follows_ofText (delimiters : Delimiters) (text : String) :
    (ofText delimiters text.toList).Follows text := by
  constructor
  · rfl
  · rfl
  · exact ⟨by simp [ofText, TreeBuilder.empty, Node.placesAll], by simp [ofText, TreeBuilder.empty]⟩

theorem Follows.stands (follows : reader.Follows text) :
    reader.lexer.cursor.StandsIn text.toList :=
  ⟨reader.builder.spelled, follows.spelled, follows.reached⟩

/-- At the place of a reader, a turn reads what the reader reads. -/
theorem turn?_inBytes (follows : reader.Follows text) :
    (reader.inBytes text).turn? = some (reported text (inBytes text) reader.turn) := by
  have stands := follows.stands
  have scanned : ByteTag.scan? (reader.inBytes text).delimiters (reader.inBytes text).cursor = _ :=
    ByteTag.scan?_inBytes stands
  unfold ByteReader.turn? turn Lexer.turn
  rw [scanned]
  simp only [Option.bind_eq_bind, Option.bind_some]
  cases read : reader.lexer.scanTag with
  | error failure => rfl
  | ok found =>
    cases found with
    | none =>
      have text : (reader.inBytes text).cursor.scanText? (reader.inBytes text).delimiters = _ :=
        ByteTag.scanText?_inBytes stands
      simp only [reported, Option.map_none, text, Option.bind_some]
      rfl
    | some pair =>
      obtain ⟨tag, lexer⟩ := pair
      have reads := Lexer.readsTag read
      have blanks := reader.lexer.cursor.passes_takeWhile Text.isBlank
      rw [← reads.leading] at blanks
      have split : text.toList = reader.builder.spelled ++ tag.leading ++
          (reader.lexer.cursor.takeWhile Text.isBlank).2.rest := by
        rw [follows.spelled, blanks.1, List.append_assoc]
      have begins : tag.position =
          Position.start.after (reader.builder.spelled ++ tag.leading) := by
        rw [reads.position, blanks.2, follows.reached, Position.after_append]
      have passed : (lexer.cursor.inBytes text).offset =
          Text.byteLength (reader.builder.spelled ++ tag.source) := by
        change lexer.cursor.position.offset = _
        rw [ByteCursor.offset_passes reads.passes, follows.reached, Position.offset_after,
          Text.byteLength_append]
        simp [Position.start]
      have added : (reader.inBytes text).addTag? tag.inBytes (lexer.cursor.inBytes text) = _ :=
        TreeBuilder.addTag?_inBytes rfl split begins passed reads.delimiters follows.keeps
      change (reader.inBytes text).addTag? tag.inBytes (lexer.cursor.inBytes text) =
        some (reported text (inBytes text) ((reader.builder.addTag tag).map (Reader.mk lexer)))
      rw [added, ← reads.after]
      cases reader.builder.addTag tag with
      | error failure => rfl
      | ok builder => rfl

/-- What a turn adds, it passes over; a tag among it begins behind the blanks. -/
theorem exists_of_turn (taken : reader.turn = .ok next) :
    ∃ lexeme, reader.lexer.cursor.Passes lexeme.source next.lexer.cursor ∧
      reader.builder.add lexeme = .ok next.builder ∧
      ∀ tag, lexeme = .tag tag →
        tag.position = (reader.lexer.cursor.takeWhile Text.isBlank).2.position := by
  unfold turn Lexer.turn at taken
  cases read : reader.lexer.scanTag with
  | error failure =>
    rw [read] at taken
    cases taken
  | ok found =>
    rw [read] at taken
    cases found with
    | none =>
      cases taken
      exact ⟨.text reader.lexer.scanText.1, Lexer.passes_scanText reader.lexer, rfl,
        fun tag other => by cases other⟩
    | some pair =>
      obtain ⟨tag, lexer⟩ := pair
      have reads := Lexer.readsTag read
      simp only [Except.map] at taken
      cases added : reader.builder.add (.tag tag) with
      | error failure =>
        rw [added] at taken
        cases taken
      | ok builder =>
        rw [added] at taken
        cases taken
        refine ⟨.tag tag, reads.passes, added, ?_⟩
        rintro _ ⟨⟩
        exact reads.position

theorem Follows.liesIn_blanks (follows : reader.Follows text) :
    (reader.lexer.cursor.takeWhile Text.isBlank).2.position.LiesIn text.toList :=
  (follows.stands.passes (reader.lexer.cursor.passes_takeWhile Text.isBlank)).liesIn

theorem Follows.turn (follows : reader.Follows text) (taken : reader.turn = .ok next) :
    next.Follows text := by
  obtain ⟨lexeme, passes, added, met⟩ := exists_of_turn taken
  constructor
  · rw [TreeBuilder.spelled_add added, List.append_assoc, ← passes.1]
    exact follows.spelled
  · rw [TreeBuilder.spelled_add added, Position.after_append, ← follows.reached]
    exact passes.2
  · apply follows.keeps.add _ added
    intro tag same
    rw [met tag same]
    exact follows.liesIn_blanks

/-- At the place of a reader, reading ends as the reader ends. -/
theorem finish?_inBytes (follows : reader.Follows text) :
    (reader.inBytes text).finish? = some (reported text Node.sequence reader.builder.finish) := by
  obtain ⟨lexer, nodes, raw, sections⟩ := reader
  cases sections with
  | nil => rfl
  | cons opened outer =>
    exact ByteTag.fail?_eq (follows.keeps.sections opened List.mem_cons_self).1 _

theorem atEnd_inBytes (follows : reader.Follows text) :
    (reader.inBytes text).cursor.atEnd = reader.lexer.cursor.rest.isEmpty := by
  obtain ⟨front, split, -, offset⟩ := ByteCursor.exists_front follows.stands
  change decide (text.utf8ByteSize ≤ reader.lexer.cursor.position.offset) = _
  have bytes := Text.length_le_byteLength reader.lexer.cursor.rest
  rw [Text.utf8ByteSize_eq, split, Text.byteLength_append, offset, Bool.eq_iff_iff,
    decide_eq_true_iff, List.isEmpty_iff]
  constructor
  · intro short
    apply List.length_eq_zero_iff.1
    omega
  · intro ended
    simp [ended]

/-- At the place of a reader, a run comes to what the run of the reader comes to. -/
theorem run?_inBytes (follows : reader.Follows text) (turns : Nat) :
    (reader.inBytes text).run? turns =
      some ((reader.run turns).map (reported text Node.sequence)) := by
  induction turns generalizing reader with
  | zero =>
    rw [ByteReader.run?, run, atEnd_inBytes follows, finish?_inBytes follows]
    split
    · rfl
    · rfl
  | succ turns ih =>
    rw [ByteReader.run?, run, atEnd_inBytes follows, finish?_inBytes follows,
      turn?_inBytes follows]
    split
    · rfl
    · simp only [Option.bind_eq_bind, Option.bind_some]
      cases taken : reader.turn with
      | error failure => rfl
      | ok next => exact ih (follows.turn taken)

end Reader

end Mustache
