import Mustache.Proofs.Spelling

/-!
# Tags as they are written

A text that is known piece by piece is read piece by piece. So a template that is one tag parses to
the node of that tag, and one that is an open tag, lexemes that nest, and the close tag of the same
name parses to a section.
-/

namespace Mustache

set_option autoImplicit false

namespace Lexer

/-- The lexer reads the lexemes and is then where `next` is. -/
def Reads (lexer : Lexer) (lexemes : List Lexeme) (next : Lexer) : Prop :=
  lexer.collect [] = ⟨lexemes ++ (next.collect []).lexemes, (next.collect []).failure⟩

theorem Reads.refl (lexer : Lexer) : lexer.Reads [] lexer := rfl

theorem Reads.trans {first second third : Lexer} {left right : List Lexeme}
    (front : first.Reads left second) (back : second.Reads right third) :
    first.Reads (left ++ right) third := by
  unfold Reads at *
  rw [front, back, List.append_assoc]

theorem reads_of_next? {lexer next : Lexer} {lexeme : Lexeme}
    (read : lexer.next? = some (.ok (lexeme, next))) : lexer.Reads [lexeme] next := by
  unfold Reads
  rw [collect_of_ok [] read, collect_eq_cons]
  rfl

theorem Reads.collect {lexer : Lexer} {lexemes : List Lexeme} {delimiters : Delimiters}
    {position : Position} (reads : lexer.Reads lexemes ⟨delimiters, ⟨position, []⟩⟩) :
    lexer.collect [] = ⟨lexemes, none⟩ := by
  unfold Reads at reads
  rw [reads, collect_of_none [] rfl]
  simp

end Lexer

/-- A tag does not stand alone if more than blanks follow it on its line. -/
theorem Tag.settle_of_dark {atLineStart : Bool} {leading : List Char} {tag : Tag} {after : Cursor}
    (dark : Text.startsInBlanks after.rest = false) :
    tag.settle atLineStart leading after = ({ tag with leading }, after) := by
  rw [settle_eq, dark, Bool.and_false]
  rfl

/-- A tag that only blanks surround on its line stands alone. -/
theorem Tag.settle_of_alone {leading : List Char} {tag : Tag} {after : Cursor}
    {atLineStart : Bool} (begins : atLineStart = true) (mayStand : tag.mayStandAlone = true)
    (ends : Text.startsInBlanks after.rest = true) :
    tag.settle atLineStart leading after =
      ({ tag with leading, trailing := Text.takeLine after.rest, standalone := true },
        after.pass (Text.takeLine after.rest) (Text.dropLine after.rest)) := by
  rw [settle_eq, begins, mayStand, ends]
  rfl

theorem Lexer.reads_tag (delimiters : Delimiters) (position : Position)
    (leading rest : List Char) {parts : TagParts} {kind : TagKind}
    {settled : Tag} {next : Cursor}
    (plain : delimiters.Plain) (nonempty : delimiters.mark ≠ [])
    (blanks : ∀ character ∈ leading, Text.isBlank character = true)
    (fits : parts.Fits delimiters.closing.toList)
    (known : TagKind.of? parts.sigil parts.content = some kind)
    (line : (parts.toTag delimiters (position.after leading) kind).settle
      (position.column == 0) leading ⟨(position.after leading).after
        (delimiters.mark ++ (parts.inner ++ delimiters.closing.toList)), rest⟩ = (settled, next)) :
    Lexer.Reads ⟨delimiters, ⟨position, leading ++ (delimiters.mark ++
        (parts.inner ++ delimiters.closing.toList) ++ rest)⟩⟩
      [.tag settled] ⟨settled.delimitersAfter, next⟩ := by
  rw [List.append_assoc delimiters.mark]
  have scanned : Tag.scan? delimiters ⟨position, leading ++ (delimiters.mark ++
      (parts.inner ++ delimiters.closing.toList ++ rest))⟩ = _ :=
    Tag.scan?_eq_some plain nonempty rfl blanks
  dsimp only [Cursor.pass] at scanned
  rw [Tag.scanBare_eq fits known, TagParts.span_toTag] at scanned
  simp only [Except.map, Cursor.atLineStart] at scanned
  rw [line] at scanned
  apply reads_of_next?
  unfold next?
  dsimp only
  split
  · rename_i ended
    simp [nonempty] at ended
  · rw [scanned]

/-- Behind a tag at the end of a text, no more than its line is left to take. -/
theorem Lexer.reads_last_tag (delimiters : Delimiters) (position : Position) {parts : TagParts}
    {kind : TagKind} (plain : delimiters.Plain) (nonempty : delimiters.mark ≠ [])
    (fits : parts.Fits delimiters.closing.toList)
    (known : TagKind.of? parts.sigil parts.content = some kind) :
    ∃ settled after trailing alone,
      Lexer.Reads ⟨delimiters, ⟨position, delimiters.mark ++
        (parts.inner ++ delimiters.closing.toList)⟩⟩
        [.tag settled] ⟨settled.delimitersAfter, ⟨after, []⟩⟩ ∧
      settled = { parts.toTag delimiters position kind with trailing, standalone := alone } := by
  obtain ⟨⟨settled, next⟩, line⟩ : ∃ read : Tag × Cursor,
      (parts.toTag delimiters position kind).settle (position.column == 0) [] ⟨position.after
        (delimiters.mark ++ (parts.inner ++ delimiters.closing.toList)), []⟩ = read := ⟨_, rfl⟩
  have reads := reads_tag delimiters position [] [] plain nonempty (by simp) fits known line
  obtain ⟨-, -, same, split, -⟩ := Tag.settle_inv rfl line
  have ended : next = ⟨next.position, []⟩ := by
    rw [← (List.append_eq_nil_iff.1 split.symm).2]
  rw [ended, List.nil_append, List.append_nil] at reads
  exact ⟨settled, next.position, settled.trailing, settled.standalone, reads, same⟩

theorem isTagSpace_of_isNameChar {character : Char} (accepted : isNameChar character = true) :
    Text.isTagSpace character = false := by
  cases spaced : Text.isTagSpace character with
  | false => rfl
  | true =>
    simp only [Text.isTagSpace, Bool.or_eq_true, beq_iff_eq] at spaced
    rcases spaced with (((rfl | rfl) | rfl) | rfl) | rfl <;> cases accepted

/-- A text of name characters. -/
structure Text.Name (name : List Char) : Prop where
  filled : name ≠ []
  all : ∀ character ∈ name, isNameChar character = true

theorem Text.Name.stopsAt {name : List Char} (known : Name name) : StopsAt isTagSpace name :=
  fun _ found => isTagSpace_of_isNameChar (known.all _ (List.mem_of_mem_head? found))

/-- A name fits between its delimiters if it ends where the name characters end and what closes the
tag is not taken for a repeated sigil. -/
theorem TagParts.fits_of_name {sigil : Option Sigil} {name spaceAfter repeated closing : List Char}
    (bound : sigil.any Sigil.takesFreeText = false) (known : Text.Name name)
    (unmarked : sigil = none →
      Text.StopsAt (fun character => (Sigil.ofChar? character).isSome) name)
    (nonempty : closing ≠ [])
    (ends : Text.StopsAt isNameChar (spaceAfter ++ repeated ++ closing))
    (spaces : ∀ character ∈ spaceAfter, Text.isTagSpace character = true)
    (spaceEnds : Text.StopsAt Text.isTagSpace (repeated ++ closing))
    (closed : (repeated = [] ∧
        Text.StopsAt (fun character => sigil.map Sigil.closingChar == some character) closing) ∨
      ∃ known, sigil = some known ∧ repeated = [known.closingChar]) :
    Fits ⟨sigil, [], name, spaceAfter, repeated⟩ closing where
  closing_ne := nonempty
  unmarked := unmarked
  space := by simp
  content_ne := known.filled
  content_head := known.stopsAt
  name := fun _ => ⟨known.all, ends⟩
  free := by
    intro known same takesFree
    dsimp only at same
    rw [same, Option.any_some, takesFree] at bound
    cases bound
  spaceAfter := spaces
  spaceAfter_end := spaceEnds
  closed := closed

/-- What a tag leaves in the tree does not depend on its line if no blanks stand before it. -/
theorem Tag.node?_of_unindented {tag settled : Tag} {trailing : List Char} {alone : Bool}
    (first : tag.leading = []) (same : settled = { tag with trailing, standalone := alone }) :
    settled.node? = tag.node? := by
  have unindented : settled.indentation = tag.indentation := by
    rw [same]
    simp [indentation, first]
  unfold node?
  rw [unindented, same]
  rfl

section

variable {delimiters : Delimiters} {source : String}

/-- A template that is one tag, which neither opens nor closes a section. -/
theorem parse_of_fits (plain : delimiters.Plain) (marked : delimiters.mark ≠ [])
    {parts : TagParts} {kind : TagKind} (fits : parts.Fits delimiters.closing.toList)
    (known : TagKind.of? parts.sigil parts.content = some kind) {node : Node}
    (leaf : (parts.toTag delimiters Position.start kind).node? = some node)
    (spelled : source.toList = delimiters.mark ++ (parts.inner ++ delimiters.closing.toList)) :
    parse delimiters source = .ok (.sequence [node]) := by
  obtain ⟨settled, position, trailing, alone, reads, same⟩ :=
    Lexer.reads_last_tag delimiters Position.start plain marked fits known
  rw [← spelled] at reads
  have lexed : Lexing.ofText delimiters source.toList = ⟨[.tag settled], none⟩ := reads.collect
  have kept : settled.node? = some node := by
    rw [← leaf]
    exact Tag.node?_of_unindented rfl same
  have unpadded : settled.literal = [] := by
    rw [same]
    simp [Tag.literal, Node.literal, TagParts.toTag]
  have nests := Nests.leaf settled node kept .nil
  rw [unpadded] at nests
  rw [parse_eq_ok_iff, lexed]
  exact ⟨_, rfl, rfl, nests⟩

/-- A template that begins with a tag that cannot be read. -/
theorem parse_of_unread (plain : delimiters.Plain) (marked : delimiters.mark ≠ [])
    {rest : List Char} {failure : Failure}
    (read : Tag.scanBare delimiters ⟨Position.start, delimiters.mark ++ rest⟩ = .error failure)
    (spelled : source.toList = delimiters.mark ++ rest) :
    parse delimiters source = .error (failure.report source) := by
  have ahead : (Cursor.ofText source.toList).rest = [] ++ (delimiters.mark ++ rest) := spelled
  have scanned : Tag.scan? delimiters (Cursor.ofText source.toList) = some (.error failure) := by
    rw [Tag.scan?_eq_some plain marked ahead (by simp)]
    change some (Except.map _ (Tag.scanBare delimiters
      ⟨Position.start, delimiters.mark ++ rest⟩)) = _
    rw [read]
    rfl
  have first : (Lexer.ofText delimiters source.toList).next? = some (.error failure) := by
    unfold Lexer.next? Lexer.ofText
    dsimp only
    split
    · rename_i ended
      change source.toList = [] at ended
      rw [spelled] at ended
      exact absurd (List.append_eq_nil_iff.1 ended).1 marked
    · rw [scanned]
  have lexed : Lexing.ofText delimiters source.toList = ⟨[], some failure⟩ :=
    Lexer.collect_of_error [] first
  unfold parse
  rw [lexed]
  rfl

/-- A template that is one section from its open tag to its close tag. -/
theorem parse_of_enclosed {text : List Char} {opened closed : Tag} {inner : List Lexeme}
    {body : List Node} {inverted : Bool} (spelled : source.toList = text)
    (lexed : Lexing.ofText delimiters text = ⟨.tag opened :: (inner ++ [.tag closed]), none⟩)
    (opens : opened.kind = .openSection inverted) (closes : closed.kind = .closeSection)
    (named : opened.content = closed.content) (nests : Nests inner body)
    (first : opened.literal = []) (last : closed.literal = []) :
    parse delimiters source = .ok (.sequence [opened.enclose inverted body
      (inner.flatMap Lexeme.source ++ closed.leading)]) := by
  have whole := Nests.enclosed opened closed inverted opens closes named nests .nil
  rw [first, last, List.append_nil] at whole
  rw [parse_eq_ok_iff, spelled, lexed]
  exact ⟨_, rfl, rfl, whole⟩

end

end Mustache
