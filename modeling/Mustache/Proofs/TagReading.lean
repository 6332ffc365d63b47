import Mustache.Proofs.TagParts

/-!
# Reading a tag

A tag is read exactly where its parts fit. Whether it stands alone on its line changes neither the
parts nor the kind, only the blanks that the tag takes with it.
-/

namespace Mustache

set_option autoImplicit false

namespace TagParts

/-- The text after the content up to the end of the closing delimiter. -/
def ending (parts : TagParts) (closing : List Char) : List Char :=
  parts.spaceAfter ++ parts.closingSigil ++ closing

namespace Fits

variable {parts : TagParts} {closing : List Char}

theorem ending_ne (fits : parts.Fits closing) : parts.ending closing ≠ [] := by
  simp [ending, fits.closing_ne]

theorem takeOne_sigil (fits : parts.Fits closing) {cursor : Cursor} {rest : List Char}
    (ahead : cursor.rest = parts.sigilText ++ (parts.space ++ (parts.content ++ rest))) :
    (cursor.takeOne fun character => (Sigil.ofChar? character).isSome) =
      (parts.sigilText, cursor.pass parts.sigilText (parts.space ++ (parts.content ++ rest))) := by
  unfold sigilText at *
  cases known : parts.sigil with
  | none =>
    rw [known] at ahead
    have stops := (fits.unmarked known).append (by simp [fits.content_ne]) rest
    have here : cursor.rest = parts.space ++ parts.content ++ rest := by simpa using ahead
    rw [← here] at stops
    rw [Cursor.takeOne_eq_nil stops, ← List.append_assoc, ← here]
    rfl
  | some sigil =>
    rw [known] at ahead
    exact Cursor.takeOne_eq_cons ahead (by simp [Sigil.ofChar?_char])

theorem head_sigil (parts : TagParts) :
    parts.sigilText.head?.bind Sigil.ofChar? = parts.sigil := by
  unfold sigilText
  cases parts.sigil with
  | none => rfl
  | some sigil => exact Sigil.ofChar?_char sigil

theorem content?_eq (fits : parts.Fits closing) {cursor : Cursor} {rest : List Char}
    (ahead : cursor.rest = parts.content ++ (parts.ending closing ++ rest)) :
    Tag.content? parts.sigil closing cursor =
      some (parts.content, cursor.pass parts.content (parts.ending closing ++ rest)) := by
  have named (bound : parts.isFree = false) :
      cursor.takeWhile isNameChar =
        (parts.content, cursor.pass parts.content (parts.ending closing ++ rest)) :=
    Cursor.takeWhile_eq ahead (fits.name bound).1
      ((fits.name bound).2.append fits.ending_ne rest)
  unfold Tag.content?
  cases known : parts.sigil with
  | none => exact congrArg some (named (by simp [isFree, known]))
  | some sigil =>
    cases takesFree : sigil.takesFreeText with
    | false => simp [takesFree, named (by simp [isFree, known, takesFree])]
    | true =>
      obtain ⟨raw, extra, split, absent, content⟩ := fits.free sigil known takesFree
      have whole : cursor.rest = raw ++ (closing ++ (extra ++ rest)) := by
        rw [ahead, ← List.append_assoc, ending, ← List.append_assoc, ← List.append_assoc, split]
        simp
      have absentHere : Text.AbsentBefore closing raw (closing ++ (extra ++ rest)) := by
        rw [← List.append_assoc]
        exact absent.extend (List.prefix_append _ _) rest
      have found : cursor.until? closing =
          some (raw, cursor.pass raw (closing ++ (extra ++ rest))) := by
        unfold Cursor.until?
        rw [whole, (Text.splitAt?_eq_some_iff fits.closing_ne).2
          ⟨rfl, List.prefix_append _ _, absentHere⟩]
        rfl
      simp only [takesFree, if_true, found, Option.map_some]
      rw [← content, Cursor.take, ahead, List.take_left, List.drop_left]

theorem takeOne_closing (fits : parts.Fits closing) {cursor : Cursor} {rest : List Char}
    (ahead : cursor.rest = parts.closingSigil ++ (closing ++ rest)) :
    (cursor.takeOne fun character => parts.sigil.map Sigil.closingChar == some character) =
      (parts.closingSigil, cursor.pass parts.closingSigil (closing ++ rest)) := by
  rcases fits.closed with ⟨bare, stops⟩ | ⟨sigil, known, repeated⟩
  · rw [bare, List.nil_append] at ahead
    have stopsHere := stops.append fits.closing_ne rest
    rw [← ahead] at stopsHere
    rw [Cursor.takeOne_eq_nil stopsHere, bare, ← ahead]
    rfl
  · rw [repeated] at ahead
    rw [Cursor.takeOne_eq_cons ahead (by simp [known]), repeated]
    rfl

/-- Fitting parts are read, whatever follows the closing delimiter. -/
theorem scanInside_eq {delimiters : Delimiters} (fits : parts.Fits delimiters.closing.toList)
    {kind : TagKind} (known : TagKind.of? parts.sigil parts.content = some kind)
    (position : Position) {inside : Cursor} {rest : List Char}
    (ahead : inside.rest = parts.inner ++ delimiters.closing.toList ++ rest) :
    Tag.scanInside delimiters false [] position inside =
      .ok (parts.toTag delimiters position kind,
        inside.pass (parts.inner ++ delimiters.closing.toList) rest) := by
  have atSigil : inside.rest = parts.sigilText ++ (parts.space ++ (parts.content ++
      (parts.ending delimiters.closing.toList ++ rest))) := by
    simp [ahead, inner, ending]
  have spaceRead (cursor : Cursor) (here : cursor.rest = parts.space ++ (parts.content ++
      (parts.ending delimiters.closing.toList ++ rest))) :
      cursor.takeWhile Text.isTagSpace = (parts.space, cursor.pass parts.space
        (parts.content ++ (parts.ending delimiters.closing.toList ++ rest))) :=
    Cursor.takeWhile_eq here fits.space (fits.content_head.append fits.content_ne _)
  have endRead (cursor : Cursor)
      (here : cursor.rest = parts.ending delimiters.closing.toList ++ rest) :
      cursor.takeWhile Text.isTagSpace = (parts.spaceAfter, cursor.pass parts.spaceAfter
        (parts.closingSigil ++ (delimiters.closing.toList ++ rest))) := by
    apply Cursor.takeWhile_eq (by simpa [ending] using here) fits.spaceAfter
    rw [← List.append_assoc]
    exact fits.spaceAfter_end.append (by simp [fits.closing_ne]) rest
  have filled : parts.content.isEmpty = false := by simpa using fits.content_ne
  unfold Tag.scanInside
  dsimp only
  rw [fits.takeOne_sigil atSigil]
  dsimp only
  rw [head_sigil, spaceRead _ rfl]
  dsimp only
  rw [fits.content?_eq rfl]
  dsimp only
  rw [filled, endRead _ rfl]
  dsimp only
  rw [fits.takeOne_closing rfl]
  dsimp only
  rw [Cursor.literal?_eq fits.closing_ne rfl, known]
  simp [toTag, Cursor.pass_pass, inner]

end Fits

end TagParts

namespace Cursor

theorem takeWhile_inv {cursor next : Cursor} {accept : Char → Bool} {front : List Char}
    (read : cursor.takeWhile accept = (front, next)) :
    cursor.rest = front ++ next.rest ∧ (∀ character ∈ front, accept character = true) ∧
      Text.StopsAt accept next.rest := by
  cases read
  refine ⟨(cursor.passes_takeWhile accept).1, ?_, Text.stopsAt_dropWhile accept cursor.rest⟩
  exact List.all_eq_true.1 List.all_takeWhile

theorem takeOne_inv {cursor next : Cursor} {accept : Char → Bool} {front : List Char}
    (read : cursor.takeOne accept = (front, next)) :
    cursor.rest = front ++ next.rest ∧
      (front = [] ∧ Text.StopsAt accept next.rest ∨
        ∃ character, front = [character] ∧ accept character = true) := by
  have passes := cursor.passes_takeOne accept
  rw [read] at passes
  refine ⟨passes.1, ?_⟩
  cases ahead : cursor.rest with
  | nil =>
    have stops : Text.StopsAt accept cursor.rest := by
      rw [ahead]
      exact Text.stopsAt_nil accept
    rw [takeOne_eq_nil stops] at read
    cases read
    exact .inl ⟨rfl, stops⟩
  | cons character rest =>
    cases accepted : accept character with
    | true =>
      rw [takeOne_eq_cons ahead accepted] at read
      cases read
      exact .inr ⟨character, rfl, accepted⟩
    | false =>
      have stops : Text.StopsAt accept cursor.rest := by
        rw [ahead]
        exact Text.stopsAt_cons.2 accepted
      rw [takeOne_eq_nil stops] at read
      cases read
      exact .inl ⟨rfl, stops⟩

end Cursor

namespace Tag

/-- A sigil was read, or what follows does not begin with one. -/
theorem takeOne_sigil_inv {cursor next : Cursor} {front : List Char}
    (read : (cursor.takeOne fun character => (Sigil.ofChar? character).isSome) = (front, next)) :
    ∃ sigil : Option Sigil, front = sigil.toList.map Sigil.char ∧
      front.head?.bind Sigil.ofChar? = sigil ∧
      (sigil = none →
        Text.StopsAt (fun character => (Sigil.ofChar? character).isSome) next.rest) := by
  rcases (Cursor.takeOne_inv read).2 with ⟨rfl, stops⟩ | ⟨character, rfl, accepted⟩
  · exact ⟨none, rfl, rfl, fun _ => stops⟩
  · obtain ⟨sigil, known⟩ := Option.isSome_iff_exists.1 accepted
    refine ⟨some sigil, ?_, known, ?_⟩
    · simp [Sigil.char_of_ofChar? character sigil known]
    · intro impossible
      cases impossible

theorem freeContent_prefix (sigil : Sigil) (raw : List Char) : freeContent sigil raw <+: raw := by
  unfold freeContent
  have trimmed (text : List Char) : Text.trimEnd text <+: text := by
    obtain ⟨removed, split, -⟩ := Text.trimEnd_append text
    exact ⟨removed, split⟩
  split
  · exact (trimmed _).trans (List.dropLast_prefix raw)
  · exact trimmed raw

/-- The content is a name, or free text that ends before the first closing delimiter. -/
theorem content?_inv {sigil : Option Sigil} {closing : List Char} {cursor : Cursor}
    {content : List Char × Cursor} (read : content? sigil closing cursor = some content) :
    cursor.rest = content.1 ++ content.2.rest ∧
      (sigil.any Sigil.takesFreeText = false →
        (∀ character ∈ content.1, isNameChar character = true) ∧
          Text.StopsAt isNameChar content.2.rest) ∧
      (∀ known, sigil = some known → known.takesFreeText = true →
        ∃ raw after, cursor.rest = raw ++ after ∧ closing <+: after ∧
          Text.AbsentBefore closing raw after ∧
          content.1 = freeContent known raw) := by
  have passes := passes_content? sigil closing cursor content read
  refine ⟨passes.1, ?_, ?_⟩
  · intro bound
    have named : cursor.takeWhile isNameChar = content := by
      unfold content? at read
      cases known : sigil with
      | none => simpa [known] using read
      | some sigil =>
        simp only [known, Option.any_some] at bound
        simpa [known, bound] using read
    exact (Cursor.takeWhile_inv named).2
  · intro known same free
    subst same
    simp only [content?, free, if_true] at read
    obtain ⟨⟨raw, found⟩, cut, rfl⟩ := Option.map_eq_some_iff.1 read
    obtain ⟨⟨before, after⟩, split, pair⟩ := Option.map_eq_some_iff.1 cut
    cases pair
    have nonempty : closing ≠ [] := by
      rintro rfl
      cases split
    obtain ⟨whole, begins, absent⟩ := (Text.splitAt?_eq_some_iff nonempty).1 split
    refine ⟨raw, after, whole, begins, absent, ?_⟩
    obtain ⟨more, same⟩ := freeContent_prefix known raw
    have ahead : cursor.rest = freeContent known raw ++ (more ++ after) := by
      rw [whole, ← List.append_assoc, same]
    simp [Cursor.take, ahead]

/-- What bounds free text before the first closing delimiter lies within the tag. -/
theorem free_inv {closing content front raw behind after : List Char}
    (whole : content ++ (front ++ closing ++ after) = raw ++ behind) (begins : closing <+: behind)
    (absent : Text.AbsentBefore closing raw behind) :
    ∃ extra, content ++ front ++ closing = raw ++ closing ++ extra ∧
      Text.AbsentBefore closing raw (closing ++ extra) := by
  have both : raw ++ behind = (content ++ front) ++ (closing ++ after) := by
    rw [← whole]
    simp
  obtain ⟨between, split, rfl⟩ := absent.exists_append both (List.prefix_append _ _)
  have bounded : closing <+: between ++ closing :=
    List.prefix_of_prefix_length_le (by rwa [← List.append_assoc] at begins)
      (List.prefix_append _ after) (by simp)
  obtain ⟨extra, ended⟩ := bounded
  refine ⟨extra, ?_, ?_⟩
  · rw [split, List.append_assoc, ← ended, List.append_assoc]
  · rw [← List.append_assoc, ← ended] at absent
    exact absent.of_append

/-- The sigil was repeated, or what follows does not begin with it. -/
theorem takeOne_closing_inv {sigil : Option Sigil} {cursor next : Cursor}
    {front closing after : List Char} (ahead : next.rest = closing ++ after)
    (read : (cursor.takeOne fun character => sigil.map Sigil.closingChar == some character) =
      (front, next)) :
    (front = [] ∧
        Text.StopsAt (fun character => sigil.map Sigil.closingChar == some character) closing) ∨
      ∃ known, sigil = some known ∧ front = [known.closingChar] := by
  rcases (Cursor.takeOne_inv read).2 with ⟨none, stops⟩ | ⟨character, one, accepted⟩
  · rw [ahead] at stops
    exact .inl ⟨none, stops.of_append⟩
  · cases marked : sigil with
    | none => simp [marked] at accepted
    | some known =>
      refine .inr ⟨known, rfl, ?_⟩
      simp only [marked, Option.map_some, beq_iff_eq, Option.some.injEq] at accepted
      rw [accepted]
      exact one

/-- What reading a tag returns is a tag with fitting parts. -/
theorem exists_parts {delimiters : Delimiters} {position : Position} {inside next : Cursor}
    {tag : Tag} (read : scanInside delimiters false [] position inside = .ok (tag, next)) :
    ∃ parts : TagParts, ∃ kind : TagKind, parts.Fits delimiters.closing.toList ∧
      TagKind.of? parts.sigil parts.content = some kind ∧
      inside.rest = parts.inner ++ delimiters.closing.toList ++ next.rest ∧
      tag = parts.toTag delimiters position kind := by
  unfold scanInside at read
  dsimp only at read
  generalize sigilRead : inside.takeOne _ = sigilText at read
  obtain ⟨sigilText, atSpace⟩ := sigilText
  obtain ⟨sigil, rfl, same, unmarked⟩ := takeOne_sigil_inv sigilRead
  dsimp only at read
  rw [same] at read
  generalize spaceRead : atSpace.takeWhile _ = space at read
  obtain ⟨space, atContent⟩ := space
  dsimp only at read
  split at read
  · cases read
  · rename_i content contentRead
    obtain ⟨content, atEnd⟩ := content
    dsimp only at read
    split at read
    · cases read
    · rename_i nonempty
      generalize endRead : atEnd.takeWhile _ = spaceAfter at read
      obtain ⟨spaceAfter, atClosing⟩ := spaceAfter
      dsimp only at read
      generalize closingRead : atClosing.takeOne _ = closingSigil at read
      obtain ⟨closingSigil, atLiteral⟩ := closingSigil
      dsimp only at read
      split at read
      · cases read
      · rename_i after closed
        split at read
        · cases read
        · rename_i kind known
          simp only [Bool.false_and, Bool.false_eq_true, if_false, Except.ok.injEq,
            Prod.mk.injEq] at read
          obtain ⟨rfl, rfl⟩ := read
          have front := (Cursor.takeOne_inv sigilRead).1
          obtain ⟨spaceSplit, spaceAll, contentHead⟩ := Cursor.takeWhile_inv spaceRead
          obtain ⟨contentSplit, named, free⟩ := content?_inv contentRead
          obtain ⟨endSplit, endAll, endStops⟩ := Cursor.takeWhile_inv endRead
          have closingSplit := (Cursor.takeOne_inv closingRead).1
          obtain ⟨⟨literalSplit, -⟩, closingNe⟩ := Cursor.passes_literal? _ _ _ closed
          dsimp only at contentSplit named free
          have ending : atEnd.rest =
              spaceAfter ++ closingSigil ++ delimiters.closing.toList ++ after.rest := by
            rw [endSplit, closingSplit, literalSplit]
            simp
          have contentNe : content ≠ [] := by simpa using nonempty
          refine ⟨⟨sigil, space, content, spaceAfter, closingSigil⟩, kind, ?_, known, ?_, rfl⟩
          · refine ⟨closingNe, ?_, spaceAll, contentNe, ?_, ?_, ?_, endAll, ?_, ?_⟩
            · intro plain
              have stops := unmarked plain
              rw [spaceSplit, contentSplit, ← List.append_assoc] at stops
              exact stops.of_append
            · rw [contentSplit] at contentHead
              exact contentHead.of_append
            · intro bound
              refine ⟨(named bound).1, ?_⟩
              have stops := (named bound).2
              rw [ending] at stops
              exact stops.of_append
            · intro mark marked takesFree
              obtain ⟨raw, behind, whole, begins, absent, same⟩ := free mark marked takesFree
              rw [contentSplit, ending] at whole
              obtain ⟨extra, split, absentHere⟩ := free_inv whole begins absent
              exact ⟨raw, extra, by simpa using split, absentHere, same⟩
            · rw [closingSplit, literalSplit, ← List.append_assoc] at endStops
              exact endStops.of_append
            · exact takeOne_closing_inv literalSplit closingRead
          · rw [front, spaceSplit, contentSplit, ending]
            simp [TagParts.inner, TagParts.sigilText]

/-- The sigil of a tag, read off the text behind its open delimiter. -/
def sigil? (tag : Tag) : Option Sigil :=
  (tag.front.drop tag.delimiters.mark.length).head?.bind Sigil.ofChar?

/-- Whether the sigil of the tag lets it take its whole line. -/
def mayStandAlone (tag : Tag) : Bool := tag.sigil?.any Sigil.mayStandAlone

/-- Gives a tag the blanks before it, and the rest of its line if it is alone on it. -/
def settle (atLineStart : Bool) (leading : List Char) (tag : Tag) (after : Cursor) : Tag × Cursor :=
  if atLineStart && tag.mayStandAlone && after.blankToLineEnd then
    let blanks := after.takeWhile Text.isBlank
    let lineBreak := blanks.2.takeLineBreak
    ({ tag with leading, trailing := blanks.1 ++ lineBreak.1, standalone := true }, lineBreak.2)
  else ({ tag with leading }, after)

theorem ofChar?_of_isTagSpace {character : Char} (space : Text.isTagSpace character = true) :
    Sigil.ofChar? character = none := by
  simp only [Text.isTagSpace, Bool.or_eq_true, beq_iff_eq] at space
  rcases space with (((rfl | rfl) | rfl) | rfl) | rfl <;> rfl

theorem head_sigilText_append {sigilText space : List Char}
    (spaces : ∀ character ∈ space, Text.isTagSpace character = true) :
    (sigilText ++ space).head?.bind Sigil.ofChar? = sigilText.head?.bind Sigil.ofChar? := by
  cases sigilText with
  | cons head rest => rfl
  | nil =>
    cases space with
    | nil => rfl
    | cons head rest => exact ofChar?_of_isTagSpace (spaces head (List.mem_cons_self ..))

/-- The sigil that is read off a tag is the one it was read with. -/
theorem sigil?_toTag {parts : TagParts} {delimiters : Delimiters}
    (fits : parts.Fits delimiters.closing.toList) (position : Position) (kind : TagKind) :
    (parts.toTag delimiters position kind).sigil? = parts.sigil := by
  unfold sigil? TagParts.toTag
  dsimp only
  rw [List.append_assoc, List.drop_left, head_sigilText_append fits.space,
    TagParts.Fits.head_sigil]

/-- The line around a tag decides about nothing but the blanks that the tag takes. -/
theorem scanInside_eq_map_settle (delimiters : Delimiters) (atLineStart : Bool)
    (leading : List Char) (position : Position) (inside : Cursor) :
    scanInside delimiters atLineStart leading position inside =
      (scanInside delimiters false [] position inside).map fun read =>
        read.1.settle atLineStart leading read.2 := by
  unfold scanInside
  dsimp only
  generalize spaceRead : (inside.takeOne _).2.takeWhile _ = space
  obtain ⟨space, atContent⟩ := space
  have sigilOf := @head_sigilText_append (inside.takeOne fun character =>
    (Sigil.ofChar? character).isSome).1 space (Cursor.takeWhile_inv spaceRead).2.1
  split
  · rfl
  · split
    · rfl
    · split
      · rfl
      · split
        · rfl
        · simp only [Bool.false_and, Bool.false_eq_true, if_false, Except.map, settle,
            mayStandAlone, sigil?, List.append_assoc, List.drop_left, sigilOf]
          split
          · rfl
          · rfl

end Tag

end Mustache
