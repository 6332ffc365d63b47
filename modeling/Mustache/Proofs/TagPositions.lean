import Mustache.Proofs.ByteOffsets
import Mustache.Proofs.Carets
import Mustache.Proofs.CheckedReading
import Mustache.Proofs.Entries

/-!
# Where tags and errors are

Every tag is kept with the place of its open delimiter, and these places follow one another as the
tags do in the source: the places in the body of a section lie behind the section's own and before
those of its later siblings. An error is placed at the open delimiter of the tag that is to blame,
and reported with the text of the line around it.
-/

namespace Mustache

set_option autoImplicit false

/-- The position is where the open delimiter of a tag stands in the text. -/
structure Position.Marks (position : Position) (pair : Delimiters) (source : String) : Prop where
  sound : Text.Boundary source position.offset
  located : position = locate source position.offset
  begins : pair.opening.toList <+: Text.dropBytes position.offset source.toList

namespace Position

variable {source : String}

theorem LiesIn.eq_locate {position : Position} (lies : position.LiesIn source.toList) :
    position = locate source position.offset := by
  obtain ⟨front, back, split, rfl⟩ := lies
  rw [offset_start_after, locate_after split]

theorem marks_after {pair : Delimiters} {front rest : List Char}
    (split : source.toList = front ++ (pair.opening.toList ++ rest)) :
    (start.after front).Marks pair source := by
  have lies : (start.after front).LiesIn source.toList := ⟨front, _, split, rfl⟩
  refine ⟨Text.boundary_iff.2 ⟨front, _, split, offset_start_after front⟩, lies.eq_locate, ?_⟩
  rw [offset_start_after, split, Text.dropBytes_byteLength]
  exact List.prefix_append _ _

/-- The position is on the line of the text that reads so, counted by the line breaks before it. -/
structure OnLine (position : Position) (source line : List Char) (lines rest : List Char) : Prop where
  split : source = lines ++ (line ++ rest)
  ends : Text.EndsLine lines
  unbroken : '\n' ∉ line
  stops : rest = [] ∨ rest.head? = some '\n'
  number : position.line = lines.count '\n'
  behind : Text.byteLength lines ≤ position.offset
  before : position.offset ≤ Text.byteLength (lines ++ line)

/-- A place is on the line that goes on behind it up to the next line break. -/
theorem PointsBehind.onLine {position : Position} {source lines before behind : List Char}
    (points : position.PointsBehind source lines before behind) :
    position.OnLine source (before ++ behind.takeWhile (· != '\n')) lines
      (behind.dropWhile (· != '\n')) := by
  have offset : position.offset = Text.byteLength (lines ++ before) := by
    rw [points.reached, offset_start_after]
  constructor
  · rw [List.append_assoc, List.takeWhile_append_dropWhile]
    exact points.split
  · exact points.ends
  · exact Text.notMem_line points.unbroken behind
  · exact Text.dropWhile_line behind
  · rw [points.reached, line_after, List.count_append, List.count_eq_zero.2 points.unbroken]
    exact Nat.zero_add _
  · rw [offset, Text.byteLength_append]
    exact Nat.le_add_right _ _
  · rw [offset, ← List.append_assoc, Text.byteLength_append _ (behind.takeWhile _)]
    exact Nat.le_add_right _ _

/-- The text of the line that a place lies on is reported, without its line break. -/
theorem LiesIn.lineText {position : Position} (lies : position.LiesIn source.toList) :
    ∃ line lines rest, position.OnLine source.toList line lines rest ∧
      position.lineText source =
        String.ofList (if line.getLast? = some '\r' then line.dropLast else line) := by
  obtain ⟨lines, before, behind, points⟩ := PointsBehind.of_liesIn lies
  have shown := congrArg String.ofList points.lineText_eq
  rw [String.ofList_toList] at shown
  exact ⟨_, lines, _, points.onLine, shown⟩

end Position

namespace Tagging

/-- The places of tags, each with the pair in force there. -/
def places (pair : Delimiters) : List Tag → List (Delimiters × Position)
  | [] => []
  | tag :: rest => (pair, tag.position) :: places (tag.pairAfter pair) rest

/-- The pair in force behind tags. -/
def pairBehind (pair : Delimiters) (tags : List Tag) : Delimiters := tags.foldl Tag.pairAfter pair

theorem places_append (pair : Delimiters) (first second : List Tag) :
    places pair (first ++ second) =
      places pair first ++ places (pairBehind pair first) second := by
  induction first generalizing pair with
  | nil => rfl
  | cons tag first ih => exact congrArg ((pair, tag.position) :: ·) (ih (tag.pairAfter pair))

variable {delimiters : Delimiters} {source : String}

/-- A tag that is read from a place in the text begins at the next open delimiter, and the text goes
on behind it. -/
structure Follows (source : String) (delimiters : Delimiters) (cursor next : Cursor) (tag : Tag) :
    Prop where
  marks : tag.position.Marks delimiters source
  behind : cursor.position.offset ≤ tag.position.offset
  before : tag.position.offset < next.position.offset
  stands : next.StandsIn source.toList
  written : tag.delimitersAfter = tag.pairAfter delimiters
  plain : tag.delimitersAfter.Plain

theorem follows_of_read (plain : delimiters.Plain) {cursor found next : Cursor} {gap : List Char}
    {tag : Tag} (stands : cursor.StandsIn source.toList)
    (cut : cursor.until? delimiters.mark = some (gap, found))
    (read : Tag.scanBare delimiters found = .ok (tag, next)) :
    Follows source delimiters cursor next tag := by
  obtain ⟨front, split, reached⟩ := stands
  obtain ⟨rest, rfl, ahead⟩ := until?_inv cut
  obtain ⟨parts, kind, fits, known, rfl, tail, moved⟩ := Tag.scanBare_inv read
  have place : cursor.position.after gap = Position.start.after (front ++ gap) := by
    rw [reached, Position.after_append]
  have whole : source.toList = (front ++ gap) ++ (delimiters.mark ++ rest) := by
    rw [split, ahead, List.append_assoc]
  have span := parts.span_toTag delimiters (cursor.position.after gap) kind
  refine ⟨?_, ?_, ?_, ?_, rfl, parts.plain_delimitersAfter plain known _⟩
  · change (cursor.position.after gap).Marks delimiters source
    rw [place]
    rw [plain.mark_eq] at whole
    exact Position.marks_after whole
  · change cursor.position.offset ≤ (cursor.position.after gap).offset
    rw [Position.offset_after]
    exact Nat.le_add_right _ _
  · change (cursor.position.after gap).offset < next.position.offset
    have filled := List.length_pos_iff.2 fits.closing_ne
    have bytes := Text.length_le_byteLength delimiters.closing.toList
    rw [moved, span, Position.offset_after (cursor.position.after gap), Text.byteLength_append,
      Text.byteLength_append]
    omega
  · refine ⟨front ++ gap ++ (delimiters.mark ++ (parts.inner ++ delimiters.closing.toList)), ?_, ?_⟩
    · rw [whole, tail]
      simp
    · rw [moved, span, place, ← Position.after_append]

/-- The tags of a text stand one behind the other, each at an open delimiter. -/
theorem places_scan (plain : delimiters.Plain) {cursor : Cursor}
    (stands : cursor.StandsIn source.toList) :
    (∀ entry ∈ places delimiters (scan delimiters cursor).tags,
      entry.2.Marks entry.1 source ∧ cursor.position.offset ≤ entry.2.offset) ∧
    (places delimiters (scan delimiters cursor).tags).Pairwise
      fun first later => first.2.offset < later.2.offset := by
  fun_induction scan delimiters cursor with
  | case1 delimiters cursor absent => exact ⟨by simp [tags, places], .nil⟩
  | case2 delimiters cursor gap found cut failure read => exact ⟨by simp [tags, places], .nil⟩
  | case3 delimiters cursor gap found cut tag next read ih =>
    have follows := follows_of_read plain stands cut read
    obtain ⟨marked, increasing⟩ := ih follows.plain follows.stands
    rw [tags_cons, places, ← follows.written]
    have between := Nat.lt_of_le_of_lt follows.behind follows.before
    refine ⟨?_, List.pairwise_cons.2 ⟨?_, increasing⟩⟩
    · intro entry inside
      rcases List.mem_cons.1 inside with rfl | later
      · exact ⟨follows.marks, follows.behind⟩
      · obtain ⟨marks, behind⟩ := marked entry later
        exact ⟨marks, Nat.le_of_lt (Nat.lt_of_lt_of_le between behind)⟩
    · intro entry later
      exact Nat.lt_of_lt_of_le follows.before (marked entry later).2

end Tagging

mutual

/-- The places of the tags in a node that starts under `pair`, each with the pair in force there, in
the order of the source. -/
def Node.tagPlaces (pair : Delimiters) : Node → List (Delimiters × Position)
  | .sequence children => Node.tagPlacesAll pair children
  | .text _ => []
  | .escaped _ position => [(pair, position)]
  | .unescaped _ position => [(pair, position)]
  | .block _ body _ _ position => (pair, position) :: Node.tagPlacesAll pair body
  | .inverted _ body position => (pair, position) :: Node.tagPlacesAll pair body
  | .partialTag _ _ position => [(pair, position)]
  | .comment _ position => [(pair, position)]
  | .delimiters _ position => [(pair, position)]

def Node.tagPlacesAll (pair : Delimiters) : List Node → List (Delimiters × Position)
  | [] => []
  | first :: rest => first.tagPlaces pair ++ Node.tagPlacesAll (first.pairAfter pair) rest

end

namespace Node

mutual

theorem tagPlaces_snd (pair : Delimiters) (node : Node) :
    (node.tagPlaces pair).map Prod.snd = node.places := by
  cases node with
  | sequence children =>
    rw [tagPlaces, places]
    exact tagPlacesAll_snd pair children
  | block path body raw inside position | inverted path body position =>
    rw [tagPlaces, places, List.map_cons, tagPlacesAll_snd pair body]
  | text | escaped | unescaped | partialTag | comment | delimiters =>
    rw [tagPlaces, places]
    rfl

theorem tagPlacesAll_snd (pair : Delimiters) (nodes : List Node) :
    (tagPlacesAll pair nodes).map Prod.snd = placesAll nodes := by
  cases nodes with
  | nil =>
    rw [tagPlacesAll, placesAll]
    rfl
  | cons first rest =>
    rw [tagPlacesAll, placesAll, List.map_append, tagPlaces_snd pair first,
      tagPlacesAll_snd (first.pairAfter pair) rest]

end

theorem tagPlacesAll_append (pair : Delimiters) (first second : List Node) :
    tagPlacesAll pair (first ++ second) =
      tagPlacesAll pair first ++ tagPlacesAll (pairAfterAll pair first) second := by
  induction first generalizing pair with
  | nil => rfl
  | cons node first ih =>
    rw [List.cons_append, tagPlacesAll, tagPlacesAll, pairAfterAll, ih, List.append_assoc]

theorem tagPlacesAll_literal (pair : Delimiters) (text : List Char) :
    tagPlacesAll pair (literal text) = [] := by
  unfold literal
  split
  · rfl
  · simp [tagPlacesAll, tagPlaces]

theorem tagPlacesAll_tagLiteral (pair : Delimiters) (tag : Tag) :
    tagPlacesAll pair tag.literal = [] := by
  unfold Tag.literal
  split
  · rfl
  · exact tagPlacesAll_literal pair tag.leading

theorem tagPlaces_of_leaf (pair : Delimiters) {tag : Tag} {node : Node}
    (known : tag.node? = some node) : node.tagPlaces pair = [(pair, tag.position)] := by
  unfold Tag.node? at known
  split at known <;> cases known <;> rw [tagPlaces]

theorem tagPlaces_enclose (pair : Delimiters) (tag : Tag) (inverted : Bool) (body : List Node)
    (raw : List Char) : (tag.enclose inverted body raw).tagPlaces pair =
      (pair, tag.position) :: tagPlacesAll pair body := by
  unfold Tag.enclose
  cases inverted with
  | true => simp [tagPlaces]
  | false => simp [tagPlaces]

end Node

/-- The tree of nested tags has their places in order, those of the close tags left out. -/
theorem Nests.tagPlaces {lexemes : List Lexeme} {nodes : List Node} (nests : Nests lexemes nodes)
    (pair : Delimiters) : List.Sublist (Node.tagPlacesAll pair nodes)
      (Tagging.places pair (Lexeme.bareTags lexemes)) := by
  induction nests generalizing pair with
  | nil => exact .slnil
  | text content later ih =>
    rw [Node.tagPlacesAll_append, Node.tagPlacesAll_literal, Node.pairAfterAll_literal]
    exact ih pair
  | leaf tag node known later ih =>
    rw [Node.tagPlacesAll_append, Node.tagPlacesAll_tagLiteral, Node.pairAfterAll_tagLiteral,
      Node.tagPlacesAll, Node.tagPlaces_of_leaf pair known, Node.pairAfter_of_leaf known]
    exact (ih _).cons_cons _
  | enclosed opened closed inverted opens closes named inside later ihInside ih =>
    have kept (other : Delimiters) : opened.bare.pairAfter other = other := by
      simp [Tag.pairAfter, Tag.bare, opens]
    have keptBehind (other : Delimiters) : closed.bare.pairAfter other = other := by
      simp [Tag.pairAfter, Tag.bare, closes]
    have same : Node.pairAfterAll pair _ = Tagging.pairBehind pair (Lexeme.bareTags _) :=
      inside.pairAfterAll pair
    rw [Node.tagPlacesAll_append, Node.tagPlacesAll_tagLiteral, Node.pairAfterAll_tagLiteral,
      Node.tagPlacesAll, Node.tagPlaces_enclose, Node.pairAfter_enclose,
      Node.tagPlacesAll_append, Node.tagPlacesAll_tagLiteral, Node.pairAfterAll_append,
      Node.pairAfterAll_tagLiteral, List.append_nil, Lexeme.bareTags_tag, Tagging.places, kept,
      Lexeme.bareTags_append, Tagging.places_append, Lexeme.bareTags_tag, Tagging.places,
      keptBehind, ← same]
    exact ((ihInside pair).append ((ih _).cons _)).cons_cons _

namespace Node

/-- The nodes directly inside a node. -/
def children : Node → List Node
  | .sequence children => children
  | .block _ body _ _ _ => body
  | .inverted _ body _ => body
  | .text _ => []
  | .escaped _ _ => []
  | .unescaped _ _ => []
  | .partialTag _ _ _ => []
  | .comment _ _ => []
  | .delimiters _ _ => []

/-- A row of siblings: the outermost, or the one inside a node of another row. -/
inductive IsRow (top : List Node) : List Node → Prop where
  | top : IsRow top top
  | inner {row : List Node} {node : Node} (inside : IsRow top row) (member : node ∈ row) :
      IsRow top node.children

theorem places_eq (node : Node) :
    node.places = node.position?.toList ++ placesAll node.children := by
  cases node with
  | sequence | block | inverted => rw [places]; rfl
  | text | escaped | unescaped | partialTag | comment | delimiters =>
    rw [places, children, placesAll]
    rfl

theorem placesAll_append (first second : List Node) :
    placesAll (first ++ second) = placesAll first ++ placesAll second := by
  rw [placesAll_eq, placesAll_eq, placesAll_eq, List.flatMap_append]

theorem IsRow.sublist {top row : List Node} (inside : IsRow top row) :
    List.Sublist (placesAll row) (placesAll top) := by
  induction inside with
  | top => exact .refl _
  | @inner row node inside member ih =>
    obtain ⟨before, after, rfl⟩ := List.append_of_mem member
    have own : List.Sublist (placesAll node.children) node.places := by
      rw [places_eq]
      exact List.sublist_append_right _ _
    have among : List.Sublist node.places (placesAll (before ++ node :: after)) := by
      rw [placesAll_append, placesAll]
      exact (List.sublist_append_left _ _).trans (List.sublist_append_right _ _)
    exact (own.trans among).trans ih

/-- Where all places follow one another, so do a section's own, those in its body and those of its
later siblings. -/
theorem IsRow.ordered {top before after : List Node} {node : Node}
    (increasing : (placesAll top).Pairwise fun first later => first.offset < later.offset)
    (inside : IsRow top (before ++ node :: after)) :
    ∀ inner ∈ placesAll node.children,
      (∀ own, node.position? = some own → own.offset < inner.offset) ∧
        ∀ next ∈ placesAll after, inner.offset < next.offset := by
  intro inner member
  have row := increasing.sublist inside.sublist
  rw [placesAll_append, placesAll, places_eq] at row
  obtain ⟨-, later, -⟩ := List.pairwise_append.1 row
  obtain ⟨within, -, behind⟩ := List.pairwise_append.1 later
  refine ⟨?_, fun next known => behind inner (List.mem_append_right _ member) next known⟩
  intro own known
  exact (List.pairwise_append.1 within).2.2 own (by simp [known]) inner member

end Node

namespace Tagging

variable {delimiters : Delimiters} {source : String}

/-- Where tags of a text end because the next cannot be read, that tag begins at the first open
delimiter behind them. -/
structure Unread (source : String) (pair : Delimiters) (tail : List Char) (failure : Failure)
    (front gap rest : List Char) : Prop where
  split : source.toList = front ++ gap ++ (pair.opening.toList ++ rest)
  tail_eq : tail = gap ++ (pair.opening.toList ++ rest)
  first : Text.AbsentBefore pair.opening.toList gap (pair.opening.toList ++ rest)
  unreadable : Tag.scanBare pair
    ⟨Position.start.after (front ++ gap), pair.opening.toList ++ rest⟩ = .error failure

/-- What is found is the first occurrence. -/
theorem until?_first {literal gap : List Char} {cursor found : Cursor}
    (cut : cursor.until? literal = some (gap, found)) :
    ∃ rest, found = ⟨cursor.position.after gap, literal ++ rest⟩ ∧
      cursor.rest = gap ++ (literal ++ rest) ∧
      Text.AbsentBefore literal gap (literal ++ rest) := by
  obtain ⟨rest, same, ahead⟩ := until?_inv cut
  obtain ⟨⟨before, after⟩, split, pair⟩ := Option.map_eq_some_iff.1 cut
  have nonempty : literal ≠ [] := by
    rintro rfl
    cases split
  obtain ⟨whole, -, absent⟩ := (Text.splitAt?_eq_some_iff nonempty).1 split
  cases pair
  rw [ahead, List.append_cancel_left_eq] at whole
  rw [← whole] at absent
  exact ⟨rest, same, ahead, absent⟩

theorem unread_scan (plain : delimiters.Plain) {cursor : Cursor}
    (stands : cursor.StandsIn source.toList) {failure : Failure}
    (failed : (scan delimiters cursor).failure = some failure) :
    ∃ front gap rest, Unread source (pairBehind delimiters (scan delimiters cursor).tags)
      (scan delimiters cursor).tail failure front gap rest := by
  fun_induction scan delimiters cursor with
  | case1 delimiters cursor absent => cases failed
  | case2 delimiters cursor gap found cut violation read =>
    cases failed
    obtain ⟨front, split, reached⟩ := stands
    obtain ⟨rest, rfl, ahead, first⟩ := until?_first cut
    rw [reached, ← Position.after_append] at read
    rw [plain.mark_eq] at read ahead first
    rw [ahead, ← List.append_assoc] at split
    exact ⟨front, gap, rest, split, ahead, first, read⟩
  | case3 delimiters cursor gap found cut tag next read ih =>
    have follows := follows_of_read plain stands cut read
    rw [failure_cons] at failed
    have later := ih follows.plain follows.stands failed
    rw [follows.written] at later ⊢
    exact later

/-- Sections that stay open around tags change nothing for them. -/
theorem openAfter_around {sections inner : List (List Char × Position)} {tags : List Tag}
    (left : openAfter sections tags = .ok inner) (outer : List (List Char × Position)) :
    openAfter (sections ++ outer) tags = .ok (inner ++ outer) := by
  induction tags generalizing sections with
  | nil =>
    cases left
    rfl
  | cons tag tags ih =>
    rcases TreeBuilder.exists_node_or tag with ⟨node, known⟩ | ⟨inverted, opens⟩ | closes
    · rw [openAfter_leaf _ _ known] at left ⊢
      exact ih left
    · rw [openAfter_open _ _ opens] at left ⊢
      exact ih left
    · cases sections with
      | nil =>
        rw [openAfter_close_nil _ closes] at left
        cases left
      | cons entry others =>
        obtain ⟨name, position⟩ := entry
        rw [List.cons_append, openAfter_close_cons _ _ closes] at *
        split at left
        · rename_i same
          rw [if_pos same]
          exact ih left
        · cases left

theorem openAfter_concat {front : List Tag} {last : Tag} {inner : List (List Char × Position)}
    (left : openAfter [] (front ++ [last]) = .ok inner) :
    ∃ stack, openAfter [] front = .ok stack ∧ openAfter stack [last] = .ok inner := by
  rw [openAfter_append] at left
  cases reached : openAfter [] front with
  | error violation =>
    rw [reached] at left
    cases left
  | ok stack =>
    rw [reached] at left
    exact ⟨stack, rfl, left⟩

/-- The innermost open section is that of an open tag behind which everything pairs up. -/
theorem exists_opener {tags : List Tag} {name : List Char} {position : Position}
    {outer : List (List Char × Position)}
    (left : openAfter [] tags = .ok ((name, position) :: outer)) :
    ∃ before opened between inverted, tags = before ++ opened :: between ∧
      opened.kind = .openSection inverted ∧ opened.content = name ∧ opened.position = position ∧
      openAfter [] before = .ok outer ∧ openAfter [] between = .ok [] := by
  induction size : tags.length using Nat.strong_induction_on generalizing tags name position outer with
  | _ count ih =>
    rcases List.eq_nil_or_concat tags with rfl | ⟨front, last, rfl⟩
    · cases left
    rw [List.concat_eq_append] at *
    rw [List.length_append, List.length_singleton] at size
    obtain ⟨stack, reached, closing⟩ := openAfter_concat left
    rcases TreeBuilder.exists_node_or last with ⟨node, known⟩ | ⟨inverted, opens⟩ | closes
    · rw [openAfter_leaf _ _ known] at closing
      cases closing
      obtain ⟨before, opened, between, inverted, rfl, opens, named, placed, earlier, balanced⟩ :=
        ih front.length (by omega) reached rfl
      refine ⟨before, opened, between ++ [last], inverted, by simp, opens, named, placed, earlier, ?_⟩
      rw [openAfter_append, balanced]
      exact openAfter_leaf _ _ known
    · rw [openAfter_open _ _ opens] at closing
      cases closing
      exact ⟨front, last, [], inverted, rfl, opens, rfl, rfl, reached, rfl⟩
    · cases stack with
      | nil =>
        rw [openAfter_close_nil _ closes] at closing
        cases closing
      | cons entry others =>
        obtain ⟨inner, place⟩ := entry
        rw [openAfter_close_cons _ _ closes] at closing
        split at closing
        · rename_i same
          cases closing
          -- The last tag closes a section of its own, in front of which the stack was the same.
          obtain ⟨middle, first, within, invertedInner, rfl, opensInner, namedInner, -, earlier,
            balancedInner⟩ := ih front.length (by omega) reached rfl
          rw [List.length_append, List.length_cons] at size
          obtain ⟨before, opened, between, inverted, rfl, opens, named, placed, earliest,
            balanced⟩ := ih middle.length (by omega) earlier rfl
          refine ⟨before, opened, between ++ first :: (within ++ [last]), inverted, by simp, opens,
            named, placed, earliest, ?_⟩
          have around := openAfter_around balancedInner [(first.content, first.position)]
          rw [List.nil_append] at around
          rw [openAfter_append, balanced]
          change openAfter [] (first :: (within ++ [last])) = _
          rw [openAfter_open _ _ opensInner, openAfter_append, around]
          change openAfter [(first.content, first.position)] [last] = _
          rw [openAfter_close_cons _ _ closes, namedInner, if_pos same]
          rfl
        · cases closing

/-- How tags break the nesting, with what is reported for it: a tag cannot be read, a section is open
at the end, or a close tag stands where none is open or another is. -/
inductive Breaks (failure : Option Failure) (sections : List (List Char × Position)) :
    List Tag → Failure → Prop where
  | unread {tags : List Tag} {inner : List (List Char × Position)} {violation : Failure}
      (nested : openAfter sections tags = .ok inner) (failed : failure = some violation) :
      Breaks failure sections tags violation
  | unended {tags : List Tag} {name : List Char} {position : Position}
      {outer : List (List Char × Position)}
      (nested : openAfter sections tags = .ok ((name, position) :: outer))
      (complete : failure = none) :
      Breaks failure sections tags ⟨.unclosedSection (String.ofList name), position⟩
  | unopened {before : List Tag} {closed : Tag} (after : List Tag)
      (nested : openAfter sections before = .ok []) (closes : closed.kind = .closeSection) :
      Breaks failure sections (before ++ closed :: after)
        ⟨.closingUnopened closed.name, closed.position⟩
  | crossed {before : List Tag} {closed : Tag} {name : List Char} {position : Position}
      {outer : List (List Char × Position)} (after : List Tag)
      (nested : openAfter sections before = .ok ((name, position) :: outer))
      (closes : closed.kind = .closeSection) (other : name ≠ closed.content) :
      Breaks failure sections (before ++ closed :: after)
        ⟨.unclosedSection (String.ofList name), position⟩

theorem Breaks.cons {failure : Option Failure} {sections inner : List (List Char × Position)}
    {first : Tag} {tags : List Tag} {violation : Failure}
    (passes : ∀ more, openAfter sections (first :: more) = openAfter inner more)
    (breaks : Breaks failure inner tags violation) :
    Breaks failure sections (first :: tags) violation := by
  cases breaks with
  | unread nested failed => exact .unread ((passes _).trans nested) failed
  | unended nested complete => exact .unended ((passes _).trans nested) complete
  | unopened after nested closes => exact .unopened after ((passes _).trans nested) closes
  | crossed after nested closes other => exact .crossed after ((passes _).trans nested) closes other

theorem breaks_of_verdict {failure : Option Failure} {sections : List (List Char × Position)}
    {tags : List Tag} {violation : Failure}
    (violated : verdictFrom failure sections tags = some violation) :
    Breaks failure sections tags violation := by
  induction tags generalizing sections with
  | nil =>
    cases sections with
    | nil => exact .unread rfl violated
    | cons entry outer =>
      cases failure with
      | none =>
        cases violated
        exact .unended rfl rfl
      | some reason =>
        cases violated
        exact .unread rfl rfl
  | cons tag tags ih =>
    rcases TreeBuilder.exists_node_or tag with ⟨node, known⟩ | ⟨inverted, opens⟩ | closes
    · rw [verdictFrom_leaf _ _ _ known] at violated
      exact (ih violated).cons fun more => openAfter_leaf _ more known
    · rw [verdictFrom_open _ _ _ opens] at violated
      exact (ih violated).cons fun more => openAfter_open _ more opens
    · cases sections with
      | nil =>
        rw [verdictFrom_close_nil _ _ closes] at violated
        cases violated
        have here : Breaks failure [] ([] ++ tag :: tags) _ := .unopened tags rfl closes
        exact here
      | cons entry outer =>
        obtain ⟨name, position⟩ := entry
        rw [verdictFrom_close_cons _ _ _ closes] at violated
        split at violated
        · rename_i same
          refine (ih violated).cons fun more => ?_
          rw [openAfter_close_cons _ _ closes, if_pos same]
        · rename_i other
          cases violated
          have here : Breaks failure ((name, position) :: outer) ([] ++ tag :: tags) _ :=
            .crossed tags rfl closes other
          exact here

end Tagging

/-- A tag that cannot be read is blamed on its open delimiter, unless it is its content that is
wrong. -/
theorem Tag.position_scanBare {delimiters : Delimiters} {cursor : Cursor} {failure : Failure}
    (read : scanBare delimiters cursor = .error failure) :
    failure.cause = .illegalContent ∨ failure.position = cursor.position := by
  unfold scanBare scanInside at read
  dsimp only at read
  split at read
  · cases read
    exact .inr rfl
  · split at read
    · cases read
      exact .inl rfl
    · split at read
      · cases read
        exact .inr rfl
      · split at read
        · cases read
          exact .inr rfl
        · split at read <;> cases read

namespace Tagging

/-- The tag that an error is about, with the tags before it. -/
inductive Blamed (delimiters : Delimiters) (source : String) (tagging : Tagging) :
    List Tag → Failure → Prop where
  /-- All tags nest so far, and the next one cannot be read. -/
  | unread {sections : List (List Char × Position)} {failure : Failure}
      {front gap rest : List Char} (nested : openAfter [] tagging.tags = .ok sections)
      (next : Unread source (pairBehind delimiters tagging.tags) tagging.tail failure front gap rest)
      (begins : failure.position = Position.start.after (front ++ gap)) :
      Blamed delimiters source tagging tagging.tags failure
  /-- It closes a section where none is open. -/
  | unopened {before after : List Tag} {closed : Tag}
      (met : tagging.tags = before ++ closed :: after) (closes : closed.kind = .closeSection)
      (nested : openAfter [] before = .ok []) :
      Blamed delimiters source tagging before ⟨.closingUnopened closed.name, closed.position⟩
  /-- It opens the innermost section at a close tag with another name. -/
  | crossed {before between after : List Tag} {opened closed : Tag} {inverted : Bool}
      {sections : List (List Char × Position)}
      (met : tagging.tags = before ++ opened :: (between ++ closed :: after))
      (opens : opened.kind = .openSection inverted) (nested : openAfter [] before = .ok sections)
      (balanced : openAfter [] between = .ok []) (closes : closed.kind = .closeSection)
      (other : opened.content ≠ closed.content) :
      Blamed delimiters source tagging before ⟨.unclosedSection opened.name, opened.position⟩
  /-- It opens the innermost section at the end of the text. -/
  | unended {before between : List Tag} {opened : Tag} {inverted : Bool}
      {sections : List (List Char × Position)}
      (met : tagging.tags = before ++ opened :: between)
      (opens : opened.kind = .openSection inverted) (nested : openAfter [] before = .ok sections)
      (balanced : openAfter [] between = .ok []) (complete : tagging.failure = none) :
      Blamed delimiters source tagging before ⟨.unclosedSection opened.name, opened.position⟩

variable {delimiters : Delimiters} {source : String}

/-- A tag of the text begins where the delimiter in force behind the tags before it stands. -/
theorem marks_of_met (plain : delimiters.Plain) {before after : List Tag} {tag : Tag}
    (met : (ofText delimiters source.toList).tags = before ++ tag :: after) :
    tag.position.Marks (pairBehind delimiters before) source := by
  have marked := (places_scan plain (Cursor.standsIn_ofText source.toList)).1
  apply (marked (pairBehind delimiters before, tag.position) ?_).1
  change _ ∈ places delimiters (ofText delimiters source.toList).tags
  rw [met, places_append]
  exact List.mem_append_right _ (List.mem_cons_self ..)

theorem blamed_of_verdict (plain : delimiters.Plain) {violation : Failure}
    (violated : (ofText delimiters source.toList).verdict = some violation) :
    violation.cause = .illegalContent ∨
      ∃ before, violation.position.Marks (pairBehind delimiters before) source ∧
        Blamed delimiters source (ofText delimiters source.toList) before violation := by
  generalize known : ofText delimiters source.toList = tagging at violated ⊢
  have breaks := breaks_of_verdict violated
  generalize all : tagging.tags = tags at breaks
  cases breaks with
  | unread nested failed =>
    subst known
    obtain ⟨front, gap, rest, next⟩ :=
      unread_scan plain (Cursor.standsIn_ofText source.toList) failed
    rcases Tag.position_scanBare next.unreadable with illegal | begins
    · exact .inl illegal
    · rw [← all] at nested
      refine .inr ⟨_, ?_, .unread nested next begins⟩
      rw [begins]
      exact Position.marks_after next.split
  | unended nested complete =>
    obtain ⟨before, opened, between, inverted, rfl, opens, rfl, rfl, nested, balanced⟩ :=
      exists_opener nested
    have met := known ▸ all
    exact .inr ⟨before, marks_of_met plain met, .unended all opens nested balanced complete⟩
  | unopened after nested closes =>
    have met := known ▸ all
    exact .inr ⟨_, marks_of_met plain met, .unopened all closes nested⟩
  | crossed after nested closes other =>
    obtain ⟨before, opened, between, inverted, rfl, opens, rfl, rfl, nested, balanced⟩ :=
      exists_opener nested
    rw [List.append_assoc, List.cons_append] at all
    have met := known ▸ all
    exact .inr ⟨before, marks_of_met plain met, .crossed all opens nested balanced closes other⟩

end Tagging

/-- Positions are right. In the tree of a template every tag is placed at its byte offset, where the
open delimiter in force stands; the offsets increase in the order of the source, and whatever is in
the body of a section lies behind the section's own place and before those of its later siblings. An
error is placed at its byte offset and reported with the text of the line there, less one carriage
return at the end. Unless the content of a tag is wrong, the place is that of an open delimiter in
force: of the tag that cannot be read, of the close tag that closes nothing, or of the open tag of
the innermost section, if a close tag has another name or the text ends. -/
theorem parse_positions (delimiters : Delimiters) (plain : delimiters.Plain) (source : String) :
    (∀ tree, parse delimiters source = .ok tree →
      (∀ entry ∈ tree.tagPlaces delimiters, entry.2.Marks entry.1 source) ∧
      (tree.places.Pairwise fun first later => first.offset < later.offset) ∧
      ∀ before node after, Node.IsRow tree.children (before ++ node :: after) →
        ∀ inner ∈ Node.placesAll node.children,
          (∀ own, node.position? = some own → own.offset < inner.offset) ∧
            ∀ next ∈ Node.placesAll after, inner.offset < next.offset) ∧
    (∀ error, parse delimiters source = .error error →
      error.position = Position.locate source error.position.offset ∧
      (∃ line lines rest, error.position.OnLine source.toList line lines rest ∧
        error.context =
          String.ofList (if line.getLast? = some '\r' then line.dropLast else line)) ∧
      (error.cause = .illegalContent ∨
        ∃ before, error.position.Marks (Tagging.pairBehind delimiters before) source ∧
          Tagging.Blamed delimiters source (Tagging.ofText delimiters source.toList) before
            ⟨error.cause, error.position⟩)) := by
  constructor
  · intro tree parsed
    obtain ⟨nodes, rfl, -, nests⟩ := (parse_eq_ok_iff delimiters source tree).1 parsed
    have kept := nests.tagPlaces delimiters
    rw [← (Lexing.tags_ofText plain source.toList).1] at kept
    obtain ⟨marked, increasing⟩ :=
      Tagging.places_scan plain (Cursor.standsIn_ofText source.toList)
    have ordered : (Node.placesAll nodes).Pairwise fun first later =>
        first.offset < later.offset := by
      rw [← Node.tagPlacesAll_snd delimiters nodes, List.pairwise_map]
      exact increasing.sublist kept
    refine ⟨?_, ordered, fun before node after inside => inside.ordered ordered⟩
    intro entry inside
    exact (marked entry (kept.subset inside)).1
  · intro error parsed
    cases found : (Tagging.ofText delimiters source.toList).verdict with
    | none =>
      obtain ⟨tree, same⟩ := (parse_of_verdict plain source).2 found
      rw [parsed] at same
      cases same
    | some violation =>
      have same := (parse_of_verdict plain source).1 violation found
      rw [parsed] at same
      cases same
      have lies : violation.position.LiesIn source.toList := by
        obtain ⟨tags, failure⟩ := Lexing.tags_ofText plain source.toList
        unfold Tagging.verdict at found
        rw [tags, failure] at found
        exact Lexing.liesIn_toNodes
          ((Lexing.ofText delimiters source.toList).toNodes_eq_verdict.1 violation found)
      obtain ⟨line, lines, rest, onLine, text⟩ := lies.lineText
      exact ⟨lies.eq_locate, ⟨line, lines, rest, onLine, text⟩,
        Tagging.blamed_of_verdict plain found⟩

/-- In the second line the delimiters change, and a section is opened that nothing closes. -/
theorem parse_positions_changed :
    Delimiters.standard.Plain ∧
      ∃ error, parse .standard "a\r\n\x7b\x7b=| |=\x7d\x7d |#b|\r\n" = .error error ∧
        error.line = 2 ∧ error.column = 11 ∧
        error.context = "\x7b\x7b=| |=\x7d\x7d |#b|" ∧
        ∃ before, error.position.Marks (Tagging.pairBehind .standard before)
          "a\r\n\x7b\x7b=| |=\x7d\x7d |#b|\r\n" := by
  have failed : parse .standard "a\r\n\x7b\x7b=| |=\x7d\x7d |#b|\r\n" =
      .error ⟨.unclosedSection "b", ⟨13, 3, 1, 10⟩, "\x7b\x7b=| |=\x7d\x7d |#b|"⟩ := by cbv
  obtain ⟨-, -, illegal | ⟨before, marks, -⟩⟩ :=
    (parse_positions .standard Delimiters.standard_plain _).2 _ failed
  · cases illegal
  · exact ⟨Delimiters.standard_plain, _, failed, rfl, rfl, rfl, before, marks⟩

end Mustache
