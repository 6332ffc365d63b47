import Mustache.Proofs.FailurePositions
import Mustache.Proofs.TagReading

/-!
# The names in a tree

Every name that a tree looks up was read from a tag that has a name, and its path only cuts it at
the dots. So no segment of a path has a character that names do not have, whatever the delimiters.
-/

namespace Mustache

set_option autoImplicit false

namespace Path

theorem mem_of_mem_pieces {name piece : List Char} {character : Char}
    (inside : piece ∈ pieces name) (among : character ∈ piece) : character ∈ name := by
  induction name generalizing piece with
  | nil =>
    rw [List.mem_singleton.1 inside] at among
    exact among
  | cons head rest ih =>
    rw [pieces] at inside
    split at inside
    · rcases List.mem_cons.1 inside with rfl | later
      · cases among
      · exact List.mem_cons_of_mem _ (ih later among)
    · split at inside
      · rw [List.mem_singleton.1 inside, List.mem_singleton] at among
        rw [among]
        exact List.mem_cons_self
      · rename_i first others cut
        rw [cut] at ih
        rcases List.mem_cons.1 inside with rfl | later
        · rcases List.mem_cons.1 among with rfl | behind
          · exact List.mem_cons_self
          · exact List.mem_cons_of_mem _ (ih List.mem_cons_self behind)
        · exact List.mem_cons_of_mem _ (ih (List.mem_cons_of_mem _ later) among)

theorem mem_of_mem_segments {name : List Char} {segment : String} {character : Char}
    (inside : segment ∈ (parse name).segments) (among : character ∈ segment.toList) :
    character ∈ name := by
  obtain ⟨piece, kept, rfl⟩ := List.mem_map.1 inside
  rw [String.toList_ofList] at among
  have cut : piece ∈ (pieces name).reverse :=
    (List.dropWhile_suffix _).subset (List.mem_reverse.1 kept)
  exact mem_of_mem_pieces (List.mem_reverse.1 cut) among

end Path

namespace Node

mutual

/-- The segments of all paths in a tree, in source order. -/
def segments : Node → List String
  | .sequence children => segmentsAll children
  | .text _ => []
  | .escaped path _ => path.segments
  | .unescaped path _ => path.segments
  | .block path body _ _ _ => path.segments ++ segmentsAll body
  | .inverted path body _ => path.segments ++ segmentsAll body
  | .partialTag _ _ _ => []
  | .comment _ _ => []
  | .delimiters _ _ => []

def segmentsAll : List Node → List String
  | [] => []
  | node :: rest => node.segments ++ segmentsAll rest

end

theorem segmentsAll_append (first second : List Node) :
    segmentsAll (first ++ second) = segmentsAll first ++ segmentsAll second := by
  induction first with
  | nil => rfl
  | cons node first ih => rw [List.cons_append, segmentsAll, segmentsAll, ih, List.append_assoc]

theorem segmentsAll_literal (text : List Char) : segmentsAll (literal text) = [] := by
  unfold literal
  split <;> rfl

theorem segmentsAll_tagLiteral (tag : Tag) : segmentsAll tag.literal = [] := by
  unfold Tag.literal
  split
  · rfl
  · exact segmentsAll_literal tag.leading

/-- A node that a tag makes on its own looks up nothing but the name of the tag. -/
theorem segments_of_leaf {tag : Tag} {node : Node} (known : tag.node? = some node)
    {segment : String} (inside : segment ∈ node.segments) :
    tag.kind.hasName = true ∧ segment ∈ (Path.parse tag.content).segments := by
  unfold Tag.node? at known
  cases kind : tag.kind <;> rw [kind] at known <;> cases known
  case escaped | unescaped => exact ⟨rfl, inside⟩
  all_goals cases inside

theorem segments_enclose (tag : Tag) (inverted : Bool) (body : List Node) (raw : List Char) :
    (tag.enclose inverted body raw).segments =
      (Path.parse tag.content).segments ++ segmentsAll body := by
  unfold Tag.enclose
  split <;> rw [segments]

end Node

/-- What a tree looks up stands in a tag. -/
theorem Nests.exists_tag_of_segment {lexemes : List Lexeme} {nodes : List Node}
    (nests : Nests lexemes nodes) {segment : String} (inside : segment ∈ Node.segmentsAll nodes) :
    ∃ tag, Lexeme.tag tag ∈ lexemes ∧ tag.kind.hasName = true ∧
      segment ∈ (Path.parse tag.content).segments := by
  induction nests with
  | nil => cases inside
  | text content later ih =>
    rw [Node.segmentsAll_append, Node.segmentsAll_literal] at inside
    obtain ⟨tag, among, found⟩ := ih inside
    exact ⟨tag, List.mem_cons_of_mem _ among, found⟩
  | leaf tag node known later ih =>
    rw [Node.segmentsAll_append, Node.segmentsAll_tagLiteral, Node.segmentsAll,
      List.nil_append] at inside
    rcases List.mem_append.1 inside with here | there
    · exact ⟨tag, List.mem_cons_self, Node.segments_of_leaf known here⟩
    · obtain ⟨other, among, found⟩ := ih there
      exact ⟨other, List.mem_cons_of_mem _ among, found⟩
  | enclosed opened closed inverted opens closes named within later ihInside ih =>
    rename_i inner lexemes body nodes
    rw [Node.segmentsAll_append, Node.segmentsAll_tagLiteral, Node.segmentsAll,
      Node.segments_enclose, Node.segmentsAll_append, Node.segmentsAll_tagLiteral] at inside
    simp only [List.nil_append, List.append_nil, List.mem_append] at inside
    rcases inside with (here | below) | there
    · exact ⟨opened, List.mem_cons_self, by rw [opens]; rfl, here⟩
    · obtain ⟨tag, among, found⟩ := ihInside below
      exact ⟨tag, List.mem_cons_of_mem _ (List.mem_append_left _ among), found⟩
    · obtain ⟨tag, among, found⟩ := ih there
      exact ⟨tag, List.mem_cons_of_mem _
        (List.mem_append_right _ (List.mem_cons_of_mem _ among)), found⟩

/-- A tag that has a name has no other character in it. -/
theorem Tag.isNameChar_of_scan? {delimiters : Delimiters} {cursor next : Cursor} {tag : Tag}
    (read : scan? delimiters cursor = some (.ok (tag, next))) (names : tag.kind.hasName = true) :
    ∀ character ∈ tag.content, isNameChar character = true := by
  obtain ⟨inside, -, scanned⟩ := Option.map_eq_some_iff.1 read
  rw [scanInside_eq_map_settle] at scanned
  cases bare : scanInside delimiters false [] (cursor.takeWhile Text.isBlank).2.position inside with
  | error failure =>
    rw [bare] at scanned
    cases scanned
  | ok found =>
    rw [bare] at scanned
    obtain ⟨parts, kind, fits, known, -, same⟩ := exists_parts bare
    -- The line around the tag changes neither its kind nor its content.
    have kept : tag.kind = kind ∧ tag.content = parts.content := by
      have settled : (settle cursor.atLineStart (cursor.takeWhile Text.isBlank).1 found.1
          found.2).1 = tag := congrArg Prod.fst (Except.ok.inj scanned)
      rw [← settled, same]
      unfold settle
      split <;> exact ⟨rfl, rfl⟩
    rw [kept.1] at names
    rw [kept.2]
    exact (fits.name (TagKind.bound_of_hasName known names)).1

theorem Lexing.isNameChar_ofText (delimiters : Delimiters) (text : List Char) :
    ∀ tag, .tag tag ∈ (Lexing.ofText delimiters text).lexemes → tag.kind.hasName = true →
      ∀ character ∈ tag.content, isNameChar character = true := by
  obtain ⟨named, -⟩ := Lexer.forall_collect (fun _ => True)
    (fun lexeme => ∀ tag, lexeme = .tag tag → tag.kind.hasName = true →
      ∀ character ∈ tag.content, isNameChar character = true) (fun _ => True)
    (fun lexer next lexeme _ read => by
      refine ⟨?_, trivial⟩
      rintro tag rfl
      unfold Lexer.next? at read
      split at read
      · cases read
      · split at read
        · cases read
        · rename_i found cursor scanned
          cases read
          exact Tag.isNameChar_of_scan? scanned
        · cases read)
    (fun _ _ _ _ => trivial) (Lexer.ofText delimiters text) trivial
  intro tag inside
  exact named _ inside tag rfl

/-- The segments of a parsed tree have no characters but those of names. -/
theorem isNameChar_of_parse {delimiters : Delimiters} {source : String} {tree : Node}
    (parsed : parse delimiters source = .ok tree) {segment : String}
    (inside : segment ∈ tree.segments) :
    ∀ character ∈ segment.toList, isNameChar character = true := by
  unfold parse at parsed
  split at parsed
  · cases parsed
  · rename_i nodes made
    cases parsed
    rw [Node.segments] at inside
    obtain ⟨-, nests⟩ := (Lexing.toNodes_eq_ok_iff _ nodes).1 made
    obtain ⟨tag, among, names, found⟩ := nests.exists_tag_of_segment inside
    intro character within
    exact Lexing.isNameChar_ofText delimiters _ tag among names character
      (Path.mem_of_mem_segments found within)

end Mustache
