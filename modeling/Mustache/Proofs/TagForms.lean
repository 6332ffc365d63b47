import Mustache.Proofs.Verdict
import Mustache.Proofs.WrittenTags

/-!
# Every form of a tag under every pair of delimiters

A sigil may be repeated before the close delimiter, so a close delimiter that begins with a sigil
leaves no tag of that sigil readable: its first character is taken for the repeated sigil. All other
forms of a tag are read under every pair, as long as the name ends before the close delimiter.
-/

namespace Mustache

set_option autoImplicit false

/-- Delimiters under which every name ends before the close delimiter. -/
structure Delimiters.Apart (pair : Delimiters) : Prop extends Worded pair where
  ends : Text.StopsAt isNameChar pair.closing.toList

namespace Tagging

/-- A section that is closed in the end is closed by a tag of its name. -/
theorem exists_close {failure : Option Failure} {sections : List (List Char × Position)}
    {tags : List Tag} (kept : verdictFrom failure sections tags = none) :
    ∀ entry ∈ sections, ∃ tag ∈ tags, tag.kind = .closeSection ∧ tag.content = entry.1 := by
  induction tags generalizing sections with
  | nil =>
    cases sections with
    | nil => simp
    | cons entry sections => cases kept
  | cons tag tags ih =>
    have later {others : List (List Char × Position)}
        (kept : verdictFrom failure others tags = none) {entry : List Char × Position}
        (inside : entry ∈ others) :
        ∃ other ∈ tag :: tags, other.kind = .closeSection ∧ other.content = entry.1 := by
      obtain ⟨other, found, closes⟩ := ih kept entry inside
      exact ⟨other, List.mem_cons_of_mem _ found, closes⟩
    intro entry inside
    rcases TreeBuilder.exists_node_or tag with ⟨node, known⟩ | ⟨inverted, opens⟩ | closes
    · rw [verdictFrom_leaf _ _ _ known] at kept
      exact later kept inside
    · rw [verdictFrom_open _ _ _ opens] at kept
      exact later kept (List.mem_cons_of_mem _ inside)
    · cases sections with
      | nil => cases inside
      | cons first outer =>
        obtain ⟨name, position⟩ := first
        rw [verdictFrom_close_cons _ _ _ closes] at kept
        split at kept
        · rename_i same
          rcases List.mem_cons.1 inside with rfl | deeper
          · exact ⟨tag, List.mem_cons_self, closes, same.symm⟩
          · exact later kept deeper
        · cases kept

/-- A close tag needs room for its delimiters, its sigil and its name. -/
theorem length_of_close {delimiters : Delimiters} {cursor : Cursor} {tag : Tag}
    (inside : tag ∈ (scan delimiters cursor).tags) (closes : tag.kind = .closeSection) :
    delimiters.mark.length + tag.content.length + delimiters.closing.toList.length <
      cursor.rest.length := by
  fun_induction scan delimiters cursor with
  | case1 delimiters cursor absent => cases inside
  | case2 delimiters cursor gap found cut failure read => cases inside
  | case3 delimiters cursor gap found cut first next read ih =>
    obtain ⟨rest, rfl, split⟩ := until?_inv cut
    obtain ⟨parts, kind, fits, known, same, ahead, -⟩ := Tag.scanBare_inv read
    have room := congrArg List.length split
    rw [ahead] at room
    simp only [List.length_append, TagParts.inner] at room
    rw [tags_cons] at inside
    rcases List.mem_cons.1 inside with here | later
    · rw [here, same] at closes
      change kind = _ at closes
      rw [closes] at known
      have content : tag.content = parts.content := by rw [here, same]; rfl
      have slash : parts.sigilText.length = 1 := by
        unfold TagParts.sigilText
        cases sigil : parts.sigil with
        | none =>
          rw [sigil] at known
          cases known
        | some sigil => rfl
      rw [content]
      omega
    · have behind := ih later
      have filled := List.length_pos_iff.2 fits.content_ne
      omega

end Tagging

section

variable {pair : Delimiters} {name : List Char}

/-- A sigil and a name under delimiters that do not begin with the sigil. -/
theorem Delimiters.Apart.fits (apart : pair.Apart) (known : Text.Name name)
    {sigil : Option Sigil} (bound : sigil.any Sigil.takesFreeText = false)
    (unmarked : sigil = none →
      Text.StopsAt (fun character => (Sigil.ofChar? character).isSome) name)
    (unlike : Text.StopsAt (fun character => sigil.map Sigil.closingChar == some character)
      pair.closing.toList) :
    TagParts.Fits ⟨sigil, [], name, [], []⟩ pair.closing.toList := by
  apply TagParts.fits_of_name bound known unmarked apart.closing apart.ends (by simp)
  · exact Text.stopsAt_of_dark (fun _ => Text.isSpace_of_isTagSpace) apart.plain.closing
  · exact .inl ⟨rfl, unlike⟩

theorem Delimiters.Apart.fits_braced (apart : pair.Apart) (known : Text.Name name) :
    TagParts.Fits ⟨some .brace, [], name, [], ['\x7d']⟩ pair.closing.toList :=
  TagParts.fits_of_name rfl known (by simp) apart.closing
    (Text.stopsAt_cons.2 rfl) (by simp) (Text.stopsAt_cons.2 rfl) (.inr ⟨.brace, rfl, rfl⟩)

/-- A tag with a sigil and a name, as it is written. -/
def Delimiters.written (pair : Delimiters) (sigil : Sigil) (name : List Char) : List Char :=
  pair.mark ++ (sigil.char :: (name ++ pair.closing.toList))

theorem Delimiters.written_append (pair : Delimiters) (sigil : Sigil) (name more : List Char) :
    pair.written sigil name ++ more =
      pair.mark ++ (sigil.char :: (name ++ (pair.closing.toList ++ more))) := by
  simp [written]

/-- The first character of the close delimiter is taken for a repeated sigil; what is left of it
must be followed by all of it again. -/
theorem Tag.scanBare_of_mirrored (apart : pair.Apart) (known : Text.Name name) {sigil : Sigil}
    (bound : sigil.takesFreeText = false)
    (alike : ¬ Text.StopsAt (· == sigil.closingChar) pair.closing.toList) {kind : TagKind}
    (does : TagKind.of? (some sigil) name = some kind) (position : Position) (more : List Char) :
    scanBare pair ⟨position, pair.written sigil name ++ more⟩ = .error ⟨.unclosedTag, position⟩ ∨
    ∃ tag next, scanBare pair ⟨position, pair.written sigil name ++ more⟩ = .ok (tag, next) ∧
      tag.kind = kind ∧ tag.content = name ∧ tag.delimiters = pair ∧
      next.rest.length < more.length := by
  obtain ⟨closing, begins⟩ : ∃ closing, pair.closing.toList = sigil.closingChar :: closing := by
    cases known : pair.closing.toList with
    | nil => exact absurd known apart.closing
    | cons head closing =>
      rw [known, Text.stopsAt_cons, Bool.not_eq_false, beq_iff_eq] at alike
      exact ⟨closing, by rw [alike]⟩
  have entered (text : List Char) : (Cursor.take ⟨position, pair.mark ++ text⟩
      pair.mark.length).2 = ⟨position.after pair.mark, text⟩ := by
    simp [Cursor.take, Cursor.pass]
  have sigilRead (cursor : Cursor) (text : List Char) (ahead : cursor.rest = sigil.char :: text) :
      (cursor.takeOne fun character => (Sigil.ofChar? character).isSome) =
        ([sigil.char], cursor.pass [sigil.char] text) :=
    Cursor.takeOne_eq_cons ahead (by simp [Sigil.ofChar?_char])
  have sigilKnown : [sigil.char].head?.bind Sigil.ofChar? = some sigil := sigil.ofChar?_char
  have noSpace (cursor : Cursor) (stops : Text.StopsAt Text.isTagSpace cursor.rest) :
      cursor.takeWhile Text.isTagSpace = ([], cursor.pass [] cursor.rest) :=
    Cursor.takeWhile_eq rfl (by simp) stops
  have contentRead (cursor : Cursor) (ahead : cursor.rest = name ++ (pair.closing.toList ++ more)) :
      content? (some sigil) pair.closing.toList cursor =
        some (name, cursor.pass name (pair.closing.toList ++ more)) := by
    unfold content?
    simp only [bound, Bool.false_eq_true, if_false]
    rw [Cursor.takeWhile_eq ahead known.all (apart.ends.append apart.closing more)]
  have filled : name.isEmpty = false := by simpa using known.filled
  have dark : Text.StopsAt Text.isTagSpace (pair.closing.toList ++ more) :=
    (Text.stopsAt_of_dark (fun _ => Text.isSpace_of_isTagSpace) apart.plain.closing).append
      apart.closing more
  have mirrored (cursor : Cursor) (ahead : cursor.rest = pair.closing.toList ++ more) :
      (cursor.takeOne fun character => (some sigil).map Sigil.closingChar == some character) =
        ([sigil.closingChar], cursor.pass [sigil.closingChar] (closing ++ more)) := by
    rw [begins] at ahead
    exact Cursor.takeOne_eq_cons ahead (by simp)
  rw [pair.written_append]
  unfold scanBare scanInside
  dsimp only
  rw [entered, sigilRead _ _ rfl]
  dsimp only
  rw [sigilKnown, noSpace _ (known.stopsAt.append known.filled _)]
  dsimp only
  rw [contentRead _ rfl]
  dsimp only
  rw [filled, if_neg Bool.false_ne_true, noSpace _ dark]
  dsimp only
  rw [mirrored _ rfl]
  dsimp only
  split
  · rename_i absent
    exact .inl rfl
  · rename_i after found
    right
    have room := congrArg List.length (Cursor.passes_literal? _ _ _ found).1.1
    rw [begins] at room
    simp only [Cursor.pass, List.length_append, List.length_cons] at room
    rw [does]
    exact ⟨_, _, rfl, rfl, rfl, rfl, by omega⟩

/-- The template is the one node, unless the close delimiter begins with the character that may be
repeated before it; then it is no template. -/
def Delimiters.ReadsUnless (pair : Delimiters) (character : Char) (source : String)
    (node : Node) : Prop :=
  (Text.StopsAt (· == character) pair.closing.toList →
    parse pair source = .ok (.sequence [node])) ∧
  (¬ Text.StopsAt (· == character) pair.closing.toList →
    ∀ tree, parse pair source ≠ .ok tree)

variable {source : String} {node : Node} {kind : TagKind}

theorem Delimiters.Apart.fits_marked (apart : pair.Apart) (known : Text.Name name) {sigil : Sigil}
    (bound : sigil.takesFreeText = false)
    (unlike : Text.StopsAt (· == sigil.closingChar) pair.closing.toList) :
    TagParts.Fits ⟨some sigil, [], name, [], []⟩ pair.closing.toList := by
  apply apart.fits known (by simpa using bound) (by simp)
  intro character found
  have different := unlike character found
  rw [beq_eq_false_iff_ne] at different
  rw [Option.map_some, beq_eq_false_iff_ne, ne_eq, Option.some.injEq]
  exact fun same => different same.symm

theorem Delimiters.Apart.reads_marked (apart : pair.Apart) (known : Text.Name name)
    (sigil : Sigil) (bound : sigil.takesFreeText = false)
    (does : TagKind.of? (some sigil) name = some kind)
    (leaf : (TagParts.toTag ⟨some sigil, [], name, [], []⟩ pair Position.start kind).node? =
      some node)
    (spelled : source.toList = pair.written sigil name) :
    pair.ReadsUnless sigil.closingChar source node := by
  constructor
  · intro unlike
    apply parse_of_fits apart.plain apart.opening (apart.fits_marked known bound unlike) does leaf
    rw [spelled, written]
    simp [TagParts.inner, TagParts.sigilText]
  · intro alike tree
    have read := Tag.scanBare_of_mirrored apart known bound alike does Position.start []
    rw [List.append_nil] at read
    rcases read with failed | ⟨tag, next, -, -, -, -, short⟩
    · rw [parse_of_unread apart.plain apart.opening failed spelled]
      intro impossible
      cases impossible
    · simp at short

/-- The open tag of a section and its close tag, with nothing between them. -/
theorem Delimiters.Apart.parse_section (apart : pair.Apart) (known : Text.Name name)
    (sigil : Sigil) {inverted : Bool} (bound : sigil.takesFreeText = false)
    (opens : TagKind.of? (some sigil) name = some (.openSection inverted))
    (unlike : Text.StopsAt (· == sigil.closingChar) pair.closing.toList)
    (spelled : source.toList = pair.written sigil name ++ pair.written .slash name) :
    parse pair source = .ok (.sequence [(TagParts.toTag ⟨some sigil, [], name, [], []⟩ pair
      Position.start (.openSection inverted)).enclose inverted [] []]) := by
  have unlikeSlash : Text.StopsAt (· == Sigil.slash.closingChar) pair.closing.toList := by
    intro character found
    rw [beq_eq_false_iff_ne]
    rintro rfl
    have refused := apart.ends _ found
    cases refused
  have fits := apart.fits_marked known bound unlike
  have fitsClose := apart.fits_marked known rfl unlikeSlash
  obtain ⟨first, rest, begins⟩ := List.exists_cons_of_ne_nil apart.opening
  have dark : Text.startsInBlanks (pair.mark ++
      (TagParts.inner ⟨some .slash, [], name, [], []⟩ ++ pair.closing.toList)) = false := by
    rw [begins, List.cons_append]
    exact Text.startsInBlanks_of_dark (apart.plain.mark first (by simp [begins])) _
  have opened := Lexer.reads_tag pair Position.start [] (pair.mark ++
      (TagParts.inner ⟨some .slash, [], name, [], []⟩ ++ pair.closing.toList))
    apart.plain apart.opening (by simp) fits opens (Tag.settle_of_dark dark)
  obtain ⟨settled, after, trailing, alone, closed, same⟩ := Lexer.reads_last_tag pair
    (Position.start.after (pair.mark ++ (TagParts.inner ⟨some sigil, [], name, [], []⟩ ++
      pair.closing.toList))) apart.plain apart.opening fitsClose rfl
  have lexed := (opened.trans closed).collect
  rw [same] at lexed
  have whole : source.toList = [] ++ (pair.mark ++ (TagParts.inner
      ⟨some sigil, [], name, [], []⟩ ++ pair.closing.toList) ++ (pair.mark ++
        (TagParts.inner ⟨some .slash, [], name, [], []⟩ ++ pair.closing.toList))) := by
    rw [spelled, written, written]
    simp [TagParts.inner, TagParts.sigilText]
  exact parse_of_enclosed whole lexed rfl rfl rfl .nil rfl
    (by simp [Tag.literal, Node.literal, TagParts.toTag])

/-- Too little text is left behind the open tag for the close tag. -/
theorem Delimiters.Apart.parse_section_ne (apart : pair.Apart) (known : Text.Name name)
    (sigil : Sigil) {inverted : Bool} (bound : sigil.takesFreeText = false)
    (opens : TagKind.of? (some sigil) name = some (.openSection inverted))
    (alike : ¬ Text.StopsAt (· == sigil.closingChar) pair.closing.toList)
    (spelled : source.toList = pair.written sigil name ++ pair.written .slash name)
    (tree : Node) : parse pair source ≠ .ok tree := by
  intro parsed
  have kept := (exists_parse_iff_verdict apart.plain source).1 ⟨tree, parsed⟩
  rw [spelled] at kept
  unfold Tagging.verdict Tagging.ofText Cursor.ofText at kept
  have cut := Tagging.until?_mark apart.plain apart.opening Position.start
    (show ∀ character ∈ [], Text.isSpace character = true by simp)
    (sigil.char :: (name ++ (pair.closing.toList ++ pair.written .slash name)))
  rw [List.nil_append, ← pair.written_append] at cut
  rcases Tag.scanBare_of_mirrored apart known bound alike opens Position.start
    (pair.written .slash name) with failed | ⟨tag, next, read, does, named, within, short⟩
  · rw [Tagging.scan_of_error cut failed] at kept
    cases kept
  · rw [Tagging.scan_of_ok cut read, Tagging.tags_cons,
      Tagging.verdictFrom_open _ _ _ does] at kept
    obtain ⟨close, inside, closes, same⟩ := Tagging.exists_close kept _ List.mem_cons_self
    have alikeNamed : close.content = name := same.trans named
    have room := Tagging.length_of_close inside closes
    have unchanged : tag.delimitersAfter = pair := by
      unfold Tag.delimitersAfter
      rw [does]
      exact within
    rw [unchanged, alikeNamed] at room
    simp only [written, List.length_append, List.length_cons] at short
    omega

end

/-- Under every pair that a delimiter change can name and whose close delimiter begins with no name
character, a name is read as a value and between braces; with another sigil it is read unless the
close delimiter begins with that sigil. -/
theorem parse_everyTag {content : List Char} {pair : Delimiters}
    (accepted : Delimiters.parse? content = some pair)
    (apart : Text.StopsAt isNameChar pair.closing.toList) {name : String}
    (known : Text.Name name.toList) :
    (Text.StopsAt (fun character => (Sigil.ofChar? character).isSome) name.toList →
      parse pair (pair.opening ++ name ++ pair.closing) =
        .ok (.sequence [.escaped (Path.parse name.toList) Position.start])) ∧
    parse pair (pair.opening ++ "\x7b" ++ name ++ "\x7d" ++ pair.closing) =
      .ok (.sequence [.unescaped (Path.parse name.toList) Position.start]) ∧
    pair.ReadsUnless '&' (pair.opening ++ "&" ++ name ++ pair.closing)
      (.unescaped (Path.parse name.toList) Position.start) ∧
    pair.ReadsUnless '>' (pair.opening ++ ">" ++ name ++ pair.closing)
      (.partialTag name "" Position.start) ∧
    pair.ReadsUnless '<' (pair.opening ++ "<" ++ name ++ pair.closing)
      (.partialTag name "" Position.start) ∧
    pair.ReadsUnless '#' (pair.opening ++ "#" ++ name ++ pair.closing ++ pair.opening ++ "/" ++
        name ++ pair.closing)
      (.block (Path.parse name.toList) [] "" pair Position.start) ∧
    pair.ReadsUnless '^' (pair.opening ++ "^" ++ name ++ pair.closing ++ pair.opening ++ "/" ++
        name ++ pair.closing)
      (.inverted (Path.parse name.toList) [] Position.start) := by
  have fair : pair.Apart := ⟨Delimiters.worded_of_parse? accepted, apart⟩
  have marked (sigil : Sigil) : pair.written sigil name.toList =
      pair.opening.toList ++ (sigil.char :: (name.toList ++ pair.closing.toList)) := by
    rw [Delimiters.written, fair.plain.mark_eq]
  have inserts (sigil : Sigil) : (TagParts.toTag ⟨some sigil, [], name.toList, [], []⟩ pair
      Position.start .partialTag).node? = some (.partialTag name "" Position.start) := by
    simp [TagParts.toTag, Tag.node?, Tag.name, Tag.indentation]
  refine ⟨?_, ?_, ?_, ?_, ?_, ?_, ?_⟩
  · intro unmarked
    have unlike : Text.StopsAt (fun character => (none : Option Sigil).map Sigil.closingChar ==
        some character) pair.closing.toList := fun _ _ => rfl
    have fits := fair.fits known rfl (fun _ => unmarked) unlike
    apply parse_of_fits fair.plain fair.opening fits rfl rfl
    simp [fair.plain.mark_eq, TagParts.inner, TagParts.sigilText]
  · apply parse_of_fits fair.plain fair.opening (fair.fits_braced known) rfl rfl
    simp [fair.plain.mark_eq, TagParts.inner, TagParts.sigilText, Sigil.char]
  · exact fair.reads_marked known .ampersand rfl rfl rfl (by simp [marked, Sigil.char])
  · exact fair.reads_marked known .greater rfl rfl (inserts _) (by simp [marked, Sigil.char])
  · exact fair.reads_marked known .less rfl rfl (inserts _) (by simp [marked, Sigil.char])
  · have spelled : (pair.opening ++ "#" ++ name ++ pair.closing ++ pair.opening ++ "/" ++
        name ++ pair.closing).toList =
          pair.written .hash name.toList ++ pair.written .slash name.toList := by
      simp [marked, Sigil.char]
    exact ⟨fun unlike => fair.parse_section known .hash rfl rfl unlike spelled,
      fun alike => fair.parse_section_ne known .hash rfl rfl alike spelled⟩
  · have spelled : (pair.opening ++ "^" ++ name ++ pair.closing ++ pair.opening ++ "/" ++
        name ++ pair.closing).toList =
          pair.written .caret name.toList ++ pair.written .slash name.toList := by
      simp [marked, Sigil.char]
    exact ⟨fun unlike => fair.parse_section known .caret rfl rfl unlike spelled,
      fun alike => fair.parse_section_ne known .caret rfl rfl alike spelled⟩

theorem parse_everyTag_angles :
    parse ⟨"<", ">"⟩ "<&n>" = .ok (.sequence [.unescaped ⟨["n"]⟩ Position.start]) ∧
      ∀ tree, parse ⟨"<", ">"⟩ "<>n>" ≠ .ok tree := by
  have known : Text.Name "n".toList := ⟨by simp, by simp [isNameChar]⟩
  obtain ⟨-, -, ⟨value, -⟩, ⟨-, partialTag⟩, -⟩ :=
    parse_everyTag (show Delimiters.parse? ['<', ' ', '>'] = some ⟨"<", ">"⟩ from rfl)
      (Text.stopsAt_cons.2 rfl) known
  exact ⟨value (Text.stopsAt_cons.2 rfl), partialTag fun unlike => by
    cases Text.stopsAt_cons.1 unlike⟩

/-- A close delimiter that is the sigil itself is taken for the repeated sigil. -/
theorem unread_of_mirroredSigil :
    Delimiters.parse? ['<', ' ', '>'] = some ⟨"<", ">"⟩ ∧
      Text.StopsAt isNameChar (Delimiters.mk "<" ">").closing.toList ∧
      Text.Name "n".toList ∧
      parse ⟨"<", ">"⟩ ("<" ++ ">" ++ "n" ++ ">") ≠
        .ok (.sequence [.partialTag "n" "" Position.start]) := by
  have accepted : Delimiters.parse? ['<', ' ', '>'] = some ⟨"<", ">"⟩ := rfl
  have apart : Text.StopsAt isNameChar (Delimiters.mk "<" ">").closing.toList :=
    Text.stopsAt_cons.2 rfl
  have known : Text.Name "n".toList := ⟨by simp, by simp [isNameChar]⟩
  refine ⟨accepted, apart, known, ?_⟩
  have fair : Delimiters.Apart ⟨"<", ">"⟩ := ⟨Delimiters.worded_of_parse? accepted, apart⟩
  apply (fair.reads_marked known .greater rfl rfl rfl rfl).2
  intro unlike
  cases Text.stopsAt_cons.1 unlike

end Mustache
