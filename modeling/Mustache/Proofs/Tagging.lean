import Mustache.Proofs.PlainDelimiters

/-!
# The tags of a text

The tags of a text, found with no regard to lines: from the end of one tag to the first occurrence
of the open delimiter then in force, over and over. Text that holds no open delimiter only adds to
the gap before the next tag, and a cut behind the last closing delimiter changes no tag before it.
-/

namespace Mustache

set_option autoImplicit false

namespace Tag

/-- Reads the tag whose open delimiter is at the cursor, with no regard to its line. -/
def scanBare (delimiters : Delimiters) (cursor : Cursor) : Except Failure (Tag × Cursor) :=
  scanInside delimiters false [] cursor.position (cursor.take delimiters.mark.length).2

/-- Fitting parts between the delimiters are read as a tag, wherever they stand. -/
theorem scanBare_eq {delimiters : Delimiters} {parts : TagParts} {kind : TagKind}
    (fits : parts.Fits delimiters.closing.toList)
    (known : TagKind.of? parts.sigil parts.content = some kind) (position : Position)
    (rest : List Char) :
    scanBare delimiters
        ⟨position, delimiters.mark ++ (parts.inner ++ delimiters.closing.toList ++ rest)⟩ =
      .ok (parts.toTag delimiters position kind,
        ⟨position.after (parts.toTag delimiters position kind).span, rest⟩) := by
  have ahead : (Cursor.take ⟨position, delimiters.mark ++
      (parts.inner ++ delimiters.closing.toList ++ rest)⟩ delimiters.mark.length).2.rest =
      parts.inner ++ delimiters.closing.toList ++ rest := by
    simp [Cursor.take, Cursor.pass]
  unfold scanBare
  rw [fits.scanInside_eq known position ahead, TagParts.span_toTag]
  simp [Cursor.take, Cursor.pass, Position.after_append]

theorem length_scanBare {delimiters : Delimiters} {cursor next : Cursor} {tag : Tag}
    (read : scanBare delimiters cursor = .ok (tag, next)) :
    next.rest.length < cursor.rest.length := by
  obtain ⟨parts, kind, fits, -, split, -⟩ := exists_parts read
  have filled := List.length_pos_iff.2 fits.closing_ne
  have sizes := congrArg List.length split
  simp only [Cursor.take, Cursor.pass, List.length_drop, List.length_append] at sizes
  omega

/-- What is read at an open delimiter is a tag with fitting parts, and its span. -/
theorem scanBare_inv {delimiters : Delimiters} {position : Position} {rest : List Char}
    {next : Cursor} {tag : Tag}
    (read : scanBare delimiters ⟨position, delimiters.mark ++ rest⟩ = .ok (tag, next)) :
    ∃ parts : TagParts, ∃ kind : TagKind, parts.Fits delimiters.closing.toList ∧
      TagKind.of? parts.sigil parts.content = some kind ∧
      tag = parts.toTag delimiters position kind ∧
      rest = parts.inner ++ delimiters.closing.toList ++ next.rest ∧
      next.position = position.after tag.span := by
  obtain ⟨parts, kind, fits, known, split, same⟩ := exists_parts read
  have ahead : rest = parts.inner ++ delimiters.closing.toList ++ next.rest := by
    simpa [Cursor.take, Cursor.pass] using split
  refine ⟨parts, kind, fits, known, same, ahead, ?_⟩
  have again := scanBare_eq fits known position next.rest
  rw [← ahead, read, Except.ok.injEq, Prod.mk.injEq] at again
  rw [again.2, same]

/-- A tag is read the same wherever its span stands and whatever follows. -/
theorem scanBare_span_append {delimiters : Delimiters} {position : Position} {rest : List Char}
    {next : Cursor} {tag : Tag}
    (read : scanBare delimiters ⟨position, delimiters.mark ++ rest⟩ = .ok (tag, next))
    (other : Position) (more : List Char) :
    scanBare delimiters ⟨other, tag.span ++ more⟩ =
      .ok ({ tag with position := other }, ⟨other.after tag.span, more⟩) := by
  obtain ⟨parts, kind, fits, known, rfl, -, -⟩ := scanBare_inv read
  rw [TagParts.span_toTag, List.append_assoc, scanBare_eq fits known other more,
    TagParts.span_toTag]
  rfl

end Tag

/-- A tag and the text between it and the tag before. -/
structure Segment where
  gap : List Char
  tag : Tag
deriving Repr, DecidableEq

/-- The tags of a text, the text behind the last, and why no further tag was read, if one begins
there that cannot be read. -/
structure Tagging where
  segments : List Segment
  tail : List Char
  failure : Option Failure
deriving Repr, DecidableEq

namespace Tagging

def tags (tagging : Tagging) : List Tag := tagging.segments.map Segment.tag

def cons (segment : Segment) (tagging : Tagging) : Tagging :=
  { tagging with segments := segment :: tagging.segments }

def prepend (text : List Char) (tagging : Tagging) : Tagging :=
  match tagging.segments with
  | [] => { tagging with tail := text ++ tagging.tail }
  | first :: rest => { tagging with segments := { first with gap := text ++ first.gap } :: rest }

def scan (delimiters : Delimiters) (cursor : Cursor) : Tagging :=
  match _cut : cursor.until? delimiters.mark with
  | none => ⟨[], cursor.rest, none⟩
  | some (gap, found) =>
    match _read : Tag.scanBare delimiters found with
    | .error failure => ⟨[], cursor.rest, some failure⟩
    | .ok (tag, next) => (scan tag.delimitersAfter next).cons ⟨gap, tag⟩
termination_by cursor.rest.length
decreasing_by
  have shorter := Tag.length_scanBare _read
  have split := congrArg List.length (cursor.passes_until? found _ gap _cut).1
  rw [List.length_append] at split
  omega

def ofText (delimiters : Delimiters) (text : List Char) : Tagging :=
  scan delimiters (Cursor.ofText text)

theorem scan_of_absent {delimiters : Delimiters} {cursor : Cursor}
    (absent : cursor.until? delimiters.mark = none) :
    scan delimiters cursor = ⟨[], cursor.rest, none⟩ := by
  rw [scan]
  split
  · rfl
  · rename_i found
    rw [absent] at found
    cases found

theorem scan_of_ended {delimiters : Delimiters} {cursor : Cursor} (ended : cursor.rest = []) :
    scan delimiters cursor = ⟨[], [], none⟩ := by
  have absent : cursor.until? delimiters.mark = none := by
    unfold Cursor.until?
    rw [ended, Text.splitAt?_empty]
    rfl
  rw [scan_of_absent absent, ended]

theorem scan_of_error {delimiters : Delimiters} {cursor found : Cursor} {gap : List Char}
    {failure : Failure} (cut : cursor.until? delimiters.mark = some (gap, found))
    (read : Tag.scanBare delimiters found = .error failure) :
    scan delimiters cursor = ⟨[], cursor.rest, some failure⟩ := by
  rw [scan]
  split
  · rename_i absent
    rw [absent] at cut
    cases cut
  · rename_i same
    rw [cut] at same
    cases same
    split
    · rename_i failed
      rw [read] at failed
      cases failed
      rfl
    · rename_i succeeded
      rw [read] at succeeded
      cases succeeded

theorem scan_of_ok {delimiters : Delimiters} {cursor found next : Cursor} {gap : List Char}
    {tag : Tag} (cut : cursor.until? delimiters.mark = some (gap, found))
    (read : Tag.scanBare delimiters found = .ok (tag, next)) :
    scan delimiters cursor = (scan tag.delimitersAfter next).cons ⟨gap, tag⟩ := by
  rw [scan]
  split
  · rename_i absent
    rw [absent] at cut
    cases cut
  · rename_i same
    rw [cut] at same
    cases same
    split
    · rename_i failed
      rw [read] at failed
      cases failed
    · rename_i succeeded
      rw [read] at succeeded
      cases succeeded
      rfl

@[simp]
theorem prepend_nil (tagging : Tagging) : tagging.prepend [] = tagging := by
  unfold prepend
  split
  · rfl
  · rename_i known
    cases tagging
    cases known
    rfl

@[simp]
theorem tags_prepend (text : List Char) (tagging : Tagging) :
    (tagging.prepend text).tags = tagging.tags := by
  unfold prepend tags
  cases tagging.segments with
  | nil => rfl
  | cons head rest => rfl

@[simp]
theorem failure_prepend (text : List Char) (tagging : Tagging) :
    (tagging.prepend text).failure = tagging.failure := by
  unfold prepend
  split <;> rfl

@[simp]
theorem tags_cons (segment : Segment) (tagging : Tagging) :
    (tagging.cons segment).tags = segment.tag :: tagging.tags := rfl

@[simp]
theorem failure_cons (segment : Segment) (tagging : Tagging) :
    (tagging.cons segment).failure = tagging.failure := rfl

theorem until?_inv {literal gap : List Char} {cursor found : Cursor}
    (cut : cursor.until? literal = some (gap, found)) :
    ∃ rest, found = ⟨cursor.position.after gap, literal ++ rest⟩ ∧
      cursor.rest = gap ++ (literal ++ rest) := by
  obtain ⟨⟨before, after⟩, split, pair⟩ := Option.map_eq_some_iff.1 cut
  cases pair
  have nonempty : literal ≠ [] := by
    rintro rfl
    cases split
  obtain ⟨whole, ⟨rest, rfl⟩, -⟩ := (Text.splitAt?_eq_some_iff nonempty).1 split
  exact ⟨rest, rfl, whole⟩

/-- Text in which no tag begins only widens the first gap. -/
theorem scan_append {delimiters : Delimiters} (position : Position) (front back : List Char)
    (absent : delimiters.mark ≠ [] → Text.AbsentBefore delimiters.mark front back) :
    scan delimiters ⟨position, front ++ back⟩ =
      (scan delimiters ⟨position.after front, back⟩).prepend front := by
  have cut : Cursor.until? ⟨position, front ++ back⟩ delimiters.mark =
      (Cursor.until? ⟨position.after front, back⟩ delimiters.mark).map
        fun found => (front ++ found.1, found.2) := by
    unfold Cursor.until?
    by_cases empty : delimiters.mark = []
    · simp [empty]
    · rw [Text.splitAt?_append_of_absent (absent empty)]
      simp only [Option.map_map]
      congr 1
      funext found
      simp [Cursor.pass, Position.after_append]
  cases found : Cursor.until? ⟨position.after front, back⟩ delimiters.mark with
  | none =>
    rw [found] at cut
    rw [scan_of_absent found, scan_of_absent cut]
    rfl
  | some pair =>
    obtain ⟨gap, atMark⟩ := pair
    rw [found] at cut
    cases read : Tag.scanBare delimiters atMark with
    | error failure =>
      rw [scan_of_error found read, scan_of_error cut read]
      rfl
    | ok pair =>
      obtain ⟨tag, next⟩ := pair
      rw [scan_of_ok found read, scan_of_ok cut read]
      rfl

/-- Behind white space, an open delimiter is the first one. -/
theorem until?_mark {delimiters : Delimiters} (plain : delimiters.Plain)
    (nonempty : delimiters.mark ≠ []) (position : Position) {spaces : List Char}
    (all : ∀ character ∈ spaces, Text.isSpace character = true) (rest : List Char) :
    Cursor.until? ⟨position, spaces ++ (delimiters.mark ++ rest)⟩ delimiters.mark =
      some (spaces, ⟨position.after spaces, delimiters.mark ++ rest⟩) := by
  unfold Cursor.until?
  rw [(Text.splitAt?_eq_some_iff nonempty).2 ⟨rfl, List.prefix_append _ _,
    plain.absentBefore_of_spaces nonempty all _⟩]
  rfl

/-- White space before a tag is part of its gap. -/
theorem scan_spaces_append {delimiters : Delimiters} (plain : delimiters.Plain)
    (position : Position) {spaces : List Char}
    (all : ∀ character ∈ spaces, Text.isSpace character = true) (back : List Char) :
    scan delimiters ⟨position, spaces ++ back⟩ =
      (scan delimiters ⟨position.after spaces, back⟩).prepend spaces :=
  scan_append position spaces back fun nonempty =>
    plain.absentBefore_of_spaces nonempty all back

end Tagging

end Mustache
