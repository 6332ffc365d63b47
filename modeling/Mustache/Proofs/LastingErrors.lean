import Mustache.Proofs.TagPositions

/-!
# Errors that no further text repairs

Whatever the parser looks for, it looks no further than the first place where it is. So a tag that
was read stays read when more text follows, and so does a tag that is wrong because of what is
written in it. More text can only repair an error that the end of the text was the reason for.
-/

namespace Mustache

set_option autoImplicit false

namespace Cursor

variable {cursor next : Cursor} {consumed : List Char}

/-- The cursor with more text behind what is ahead. -/
def extend (cursor : Cursor) (more : List Char) : Cursor := ⟨cursor.position, cursor.rest ++ more⟩

/-- The offset of the end of the text. -/
def endOffset (cursor : Cursor) : Nat := cursor.position.offset + Text.byteLength cursor.rest

theorem Passes.endOffset_eq (passes : cursor.Passes consumed next) :
    next.endOffset = cursor.endOffset := by
  unfold endOffset
  rw [passes.2, passes.1, Position.offset_after, Text.byteLength_append, Nat.add_assoc]

theorem Passes.rest_ne (passes : cursor.Passes consumed next) (ahead : next.rest ≠ []) :
    cursor.rest ≠ [] := by
  rw [passes.1]
  simp [ahead]

theorem takeWhile_extend {accept : Char → Bool} (stopped : (cursor.takeWhile accept).2.rest ≠ [])
    (more : List Char) :
    (cursor.extend more).takeWhile accept =
      ((cursor.takeWhile accept).1, (cursor.takeWhile accept).2.extend more) := by
  generalize read : cursor.takeWhile accept = taken at stopped ⊢
  obtain ⟨front, after⟩ := taken
  obtain ⟨ahead, all, stops⟩ := takeWhile_inv read
  have aheadMore : (cursor.extend more).rest = front ++ (after.rest ++ more) := by
    rw [extend, ahead, List.append_assoc]
  rw [takeWhile_eq aheadMore all (stops.append stopped more)]
  cases read
  rfl

theorem takeOne_extend {accept : Char → Bool} (ahead : cursor.rest ≠ []) (more : List Char) :
    (cursor.extend more).takeOne accept =
      ((cursor.takeOne accept).1, (cursor.takeOne accept).2.extend more) := by
  obtain ⟨first, rest, known⟩ := List.exists_cons_of_ne_nil ahead
  have knownMore : (cursor.extend more).rest = first :: (rest ++ more) := by
    rw [extend, known, List.cons_append]
  unfold takeOne
  rw [known, knownMore]
  dsimp only
  split
  · rfl
  · rfl

theorem take_extend {count : Nat} (enough : count ≤ cursor.rest.length) (more : List Char) :
    (cursor.extend more).take count = ((cursor.take count).1, (cursor.take count).2.extend more) := by
  unfold take extend
  rw [List.take_append_of_le_length enough, List.drop_append_of_le_length enough]
  rfl

theorem literal?_extend {literal : List Char} (found : cursor.literal? literal = some next)
    (more : List Char) : (cursor.extend more).literal? literal = some (next.extend more) := by
  obtain ⟨⟨ahead, reached⟩, nonempty⟩ := passes_literal? _ _ _ found
  have aheadMore : (cursor.extend more).rest = literal ++ (next.rest ++ more) := by
    rw [extend, ahead, List.append_assoc]
  rw [literal?_eq nonempty aheadMore]
  unfold extend
  rw [reached]
  rfl

end Cursor

/-- The failure is more than that the text ends too early. -/
def Failure.Lasts (failure : Failure) (endOffset : Nat) : Prop :=
  failure.cause ≠ .unclosedTag ∧
    (failure.cause = .illegalContent → failure.position.offset < endOffset)

namespace Tag

variable {delimiters : Delimiters}

theorem content?_extend {sigil : Option Sigil} {closing : List Char} {cursor : Cursor}
    {content : List Char × Cursor} (read : content? sigil closing cursor = some content)
    (stopped : content.2.rest ≠ []) (more : List Char) :
    content? sigil closing (cursor.extend more) = some (content.1, content.2.extend more) := by
  have named (taken : cursor.takeWhile isNameChar = content) :
      (cursor.extend more).takeWhile isNameChar = (content.1, content.2.extend more) := by
    subst taken
    exact Cursor.takeWhile_extend stopped more
  unfold content? at read ⊢
  cases sigil with
  | none => exact congrArg some (named (Option.some.inj read))
  | some sigil =>
    dsimp only at read ⊢
    split
    · rename_i free
      rw [if_pos free] at read
      obtain ⟨⟨raw, found⟩, cut, rfl⟩ := Option.map_eq_some_iff.1 read
      have enough : (freeContent sigil raw).length ≤ cursor.rest.length := by
        rw [(cursor.passes_until? _ _ _ cut).1, List.length_append]
        have begins := freeContent_prefix sigil raw
        exact Nat.le_add_right_of_le begins.length_le
      have cutMore : (cursor.extend more).until? closing = some (raw, found.extend more) :=
        Tagging.until?_append cut more
      rw [cutMore, Option.map_some, Cursor.take_extend enough more]
    · rename_i bound
      rw [if_neg bound] at read
      exact congrArg some (named (Option.some.inj read))

section Front

variable {inside : Cursor} {sigilText space content : List Char × Cursor} {sigil : Option Sigil}
  {closing : List Char}
  (sigilRead : (inside.takeOne fun character => (Sigil.ofChar? character).isSome) = sigilText)
  (spaceRead : sigilText.2.takeWhile Text.isTagSpace = space)
  (contentRead : content? sigil closing space.2 = some content)

include sigilRead spaceRead contentRead

theorem passes_front : inside.Passes (sigilText.1 ++ space.1 ++ content.1) content.2 := by
  have atSpace := inside.passes_takeOne fun character => (Sigil.ofChar? character).isSome
  have atContent := sigilText.2.passes_takeWhile Text.isTagSpace
  rw [sigilRead] at atSpace
  rw [spaceRead] at atContent
  exact (atSpace.trans atContent).trans (passes_content? _ _ _ _ contentRead)

/-- Reading up to the content looks no further than the character behind it. -/
theorem front_extend (stopped : content.2.rest ≠ []) (more : List Char) :
    ((inside.extend more).takeOne fun character => (Sigil.ofChar? character).isSome) =
        (sigilText.1, sigilText.2.extend more) ∧
      (sigilText.2.extend more).takeWhile Text.isTagSpace = (space.1, space.2.extend more) ∧
      content? sigil closing (space.2.extend more) =
        some (content.1, content.2.extend more) := by
  have spaceStopped := (passes_content? _ _ _ _ contentRead).rest_ne stopped
  have filled := (passes_front sigilRead spaceRead contentRead).rest_ne stopped
  refine ⟨?_, ?_, content?_extend contentRead stopped more⟩
  · rw [Cursor.takeOne_extend filled more, sigilRead]
  · rw [← spaceRead] at spaceStopped ⊢
    exact Cursor.takeWhile_extend spaceStopped more

end Front

/-- What is wrong in a tag stays wrong. -/
theorem scanInside_extend {position : Position} {inside : Cursor} {failure : Failure}
    (read : scanInside delimiters false [] position inside = .error failure)
    (lasts : failure.Lasts inside.endOffset) (more : List Char) :
    scanInside delimiters false [] position (inside.extend more) = .error failure := by
  unfold scanInside at read ⊢
  dsimp only at read ⊢
  generalize sigilRead : (inside.takeOne fun character => (Sigil.ofChar? character).isSome) =
    sigilText at read
  generalize spaceRead : sigilText.2.takeWhile Text.isTagSpace = space at read
  split at read
  · cases read
    exact absurd rfl lasts.1
  · rename_i content contentRead
    have front := front_extend sigilRead spaceRead contentRead
    split at read
    · rename_i empty
      cases read
      have stopped : content.2.rest ≠ [] := by
        intro ended
        have short := lasts.2 rfl
        rw [← (passes_front sigilRead spaceRead contentRead).endOffset_eq] at short
        simp [Cursor.endOffset, ended] at short
      obtain ⟨first, second, third⟩ := front stopped more
      simp only [first, second, third, empty, if_true]
      rfl
    · rename_i filled
      generalize endRead : content.2.takeWhile Text.isTagSpace = spaceAfter at read
      have atEnd := content.2.passes_takeWhile Text.isTagSpace
      rw [endRead] at atEnd
      generalize closingRead : spaceAfter.2.takeOne _ = closingSigil at read
      have atClosing := spaceAfter.2.passes_takeOne fun character =>
        (sigilText.1.head?.bind Sigil.ofChar?).map Sigil.closingChar == some character
      rw [closingRead] at atClosing
      split at read
      · cases read
        exact absurd rfl lasts.1
      · rename_i after closed
        have closes := Cursor.passes_literal? _ _ _ closed
        have closingStopped : closingSigil.2.rest ≠ [] := by
          rw [closes.1.1]
          simp [closes.2]
        have endStopped := atClosing.rest_ne closingStopped
        obtain ⟨first, second, third⟩ := front (atEnd.rest_ne endStopped) more
        have fourth : (content.2.extend more).takeWhile Text.isTagSpace =
            (spaceAfter.1, spaceAfter.2.extend more) := by
          rw [← endRead] at endStopped ⊢
          exact Cursor.takeWhile_extend endStopped more
        split at read
        · rename_i unknown
          cases read
          have fifth := @Cursor.takeOne_extend _ (fun character =>
            (sigilText.1.head?.bind Sigil.ofChar?).map Sigil.closingChar == some character)
            endStopped more
          rw [closingRead] at fifth
          simp only [first, second, third]
          rw [if_neg filled]
          simp only [fourth, fifth, Cursor.literal?_extend closed more, unknown]
        · split at read <;> cases read

theorem scanBare_extend {position : Position} {rest : List Char} {failure : Failure}
    (read : scanBare delimiters ⟨position, delimiters.mark ++ rest⟩ = .error failure)
    (lasts : failure.Lasts (Cursor.endOffset ⟨position, delimiters.mark ++ rest⟩))
    (more : List Char) :
    scanBare delimiters ⟨position, delimiters.mark ++ (rest ++ more)⟩ = .error failure := by
  have enough : delimiters.mark.length ≤ (delimiters.mark ++ rest).length := by simp
  have taken := @Cursor.take_extend ⟨position, delimiters.mark ++ rest⟩ _ enough more
  have passes := Cursor.passes_take ⟨position, delimiters.mark ++ rest⟩ delimiters.mark.length
  unfold scanBare at read ⊢
  rw [← passes.endOffset_eq] at lasts
  rw [← List.append_assoc]
  change scanInside delimiters false [] position
    (Cursor.take (Cursor.extend ⟨position, delimiters.mark ++ rest⟩ more) _).2 = _
  rw [taken]
  exact scanInside_extend read lasts more

theorem passes_scanBare {position : Position} {rest : List Char} {tag : Tag} {next : Cursor}
    (read : scanBare delimiters ⟨position, delimiters.mark ++ rest⟩ = .ok (tag, next)) :
    Cursor.Passes ⟨position, delimiters.mark ++ rest⟩ tag.span next := by
  obtain ⟨parts, kind, -, -, rfl, split, moved⟩ := scanBare_inv read
  refine ⟨?_, moved⟩
  rw [TagParts.span_toTag, split, List.append_assoc, List.append_assoc, List.append_assoc]

end Tag

namespace Tagging

variable {delimiters : Delimiters}

/-- All tags of a text are tags of the text with more behind it. If the next tag cannot be read for
what is written in it, there are no others. -/
theorem scan_extend (cursor : Cursor) (more : List Char) :
    (scan delimiters cursor).tags <+: (scan delimiters (cursor.extend more)).tags ∧
      ∀ failure, (scan delimiters cursor).failure = some failure →
        failure.Lasts cursor.endOffset →
          (scan delimiters (cursor.extend more)).tags = (scan delimiters cursor).tags ∧
            (scan delimiters (cursor.extend more)).failure = some failure := by
  fun_induction scan delimiters cursor with
  | case1 delimiters cursor absent =>
    refine ⟨List.nil_prefix, ?_⟩
    intro failure impossible
    cases impossible
  | case2 delimiters cursor gap found cut failure read =>
    refine ⟨List.nil_prefix, ?_⟩
    intro other same lasts
    cases same
    have passes := cursor.passes_until? _ _ _ cut
    obtain ⟨rest, rfl, -⟩ := until?_inv cut
    rw [← passes.endOffset_eq] at lasts
    have cutMore := until?_append cut more
    have readMore := Tag.scanBare_extend read lasts more
    rw [← List.append_assoc] at readMore
    change (scan delimiters (cursor.extend more)).tags = [] ∧ _
    rw [Cursor.extend, scan_of_error cutMore readMore]
    exact ⟨rfl, rfl⟩
  | case3 delimiters cursor gap found cut tag next read ih =>
    have passes := cursor.passes_until? _ _ _ cut
    obtain ⟨rest, rfl, -⟩ := until?_inv cut
    have cutMore := until?_append cut more
    have readMore := Tag.scanBare_append read more
    rw [← List.append_assoc] at readMore
    obtain ⟨begins, stays⟩ := ih
    rw [Cursor.extend, scan_of_ok cutMore readMore]
    simp only [tags_cons, failure_cons, List.cons_prefix_cons, true_and, List.cons.injEq]
    refine ⟨begins, ?_⟩
    intro failure failed lasts
    apply stays failure failed
    rwa [(Tag.passes_scanBare read).endOffset_eq, passes.endOffset_eq]

theorem ofText_append (front more : List Char) :
    (ofText delimiters front).tags <+: (ofText delimiters (front ++ more)).tags ∧
      ∀ failure, (ofText delimiters front).failure = some failure →
        failure.Lasts (Cursor.ofText front).endOffset →
          (ofText delimiters (front ++ more)).tags = (ofText delimiters front).tags ∧
            (ofText delimiters (front ++ more)).failure = some failure :=
  scan_extend (Cursor.ofText front) more

/-- A close tag names another section than the innermost that is open. -/
def Crossed (tagging : Tagging) : Prop :=
  ∃ before closed after name position outer, tagging.tags = before ++ closed :: after ∧
    openAfter [] before = .ok ((name, position) :: outer) ∧ closed.kind = .closeSection ∧
    name ≠ closed.content

theorem Crossed.not_nested {tagging : Tagging} (crossed : tagging.Crossed)
    (sections : List (List Char × Position)) : openAfter [] tagging.tags ≠ .ok sections := by
  obtain ⟨before, closed, after, name, position, outer, tags, nested, closes, other⟩ := crossed
  rw [tags, openAfter_append, nested]
  change openAfter ((name, position) :: outer) (closed :: after) ≠ _
  rw [openAfter_close_cons _ _ closes, if_neg other]
  intro impossible
  cases impossible

end Tagging

/-- The error is in what the text says and not in where it ends: a close tag without a section, or
with the name of another than the innermost, a delimiter change that is none, or a tag whose content
is wrong while there is more of the text. -/
def ParseError.Definite (error : ParseError) (delimiters : Delimiters) (source : String) : Prop :=
  match error.cause with
  | .closingUnopened _ => True
  | .malformedDelimiters _ => True
  | .unclosedSection _ => (Tagging.ofText delimiters source.toList).Crossed
  | .illegalContent => error.position.offset < source.utf8ByteSize
  | .unclosedTag => False

theorem ParseError.Definite.lasts {failure : Failure} {delimiters : Delimiters} {source : String}
    (definite : (failure.report source).Definite delimiters source) :
    failure.Lasts (Cursor.ofText source.toList).endOffset := by
  have size : (Cursor.ofText source.toList).endOffset = source.utf8ByteSize := by
    rw [Text.utf8ByteSize_eq]
    exact Nat.zero_add _
  obtain ⟨cause, position⟩ := failure
  unfold Failure.Lasts
  rw [size]
  cases cause with
  | unclosedTag => exact definite.elim
  | illegalContent => exact ⟨ParseCause.noConfusion, fun _ => definite⟩
  | _ => exact ⟨ParseCause.noConfusion, fun impossible => ParseCause.noConfusion impossible⟩

/-- No text that follows repairs a definite error: it stays the error of the longer text, at the
same place. Only the line around the place may get longer. -/
theorem parse_definite (delimiters : Delimiters) (plain : delimiters.Plain)
    (source more : String) (error : ParseError) (failed : parse delimiters source = .error error)
    (definite : error.Definite delimiters source) :
    ∃ context, parse delimiters (source ++ more) = .error { error with context } := by
  obtain ⟨violation, violated, rfl⟩ :
      ∃ violation, (Tagging.ofText delimiters source.toList).verdict = some violation ∧
        error = violation.report source := by
    obtain ⟨refused, parsed⟩ := parse_of_verdict plain source
    cases known : (Tagging.ofText delimiters source.toList).verdict with
    | none =>
      obtain ⟨tree, ok⟩ := parsed known
      rw [ok] at failed
      cases failed
    | some violation =>
      rw [refused violation known] at failed
      exact ⟨violation, rfl, (Except.error.inj failed).symm⟩
  obtain ⟨⟨later, tags⟩, stays⟩ :=
    @Tagging.ofText_append delimiters source.toList more.toList
  rw [← String.toList_append] at tags stays
  -- The same violation comes first in the longer text, among the tags or right behind them.
  have same : (Tagging.ofText delimiters (source ++ more).toList).verdict = some violation := by
    unfold Tagging.verdict at violated ⊢
    rw [← List.append_nil (Tagging.ofText delimiters source.toList).tags,
      Tagging.verdictFrom_append] at violated
    cases nested : Tagging.openAfter [] (Tagging.ofText delimiters source.toList).tags with
    | error first =>
      rw [nested] at violated
      rw [← tags, Tagging.verdictFrom_append]
      rw [nested]
      exact violated
    | ok inner =>
      rw [nested] at violated
      dsimp only at violated
      cases read : (Tagging.ofText delimiters source.toList).failure with
      | some failure =>
        rw [read] at violated
        have blamed : failure = violation := by
          cases inner <;> exact Option.some.inj violated
        subst blamed
        obtain ⟨sameTags, sameFailure⟩ := stays failure read definite.lasts
        rw [sameTags, sameFailure,
          ← List.append_nil (Tagging.ofText delimiters source.toList).tags,
          Tagging.verdictFrom_append, nested]
        exact violated
      | none =>
        rw [read] at violated
        cases inner with
        | nil => cases violated
        | cons entry outer =>
          cases violated
          exact absurd nested (Tagging.Crossed.not_nested definite (entry :: outer))
  exact ⟨_, (parse_of_verdict plain (source ++ more)).1 violation same⟩

/-- A section that the tag behind it does not close. -/
def crossedSource : String := "\x7b\x7b#a\x7d\x7d\x7b\x7b/b\x7d\x7d"

def ParseError.crossed : ParseError := ⟨.unclosedSection "a", Position.start, crossedSource⟩

theorem Tagging.crossed_ofText : (ofText .standard crossedSource.toList).Crossed := by
  refine ⟨[⟨.openSection false, ['a'], Position.start, .standard, [], "\x7b\x7b#".toList,
      "\x7d\x7d".toList, [], false⟩],
    ⟨.closeSection, ['b'], ⟨6, 0, 0, 6⟩, .standard, [], "\x7b\x7b/".toList,
      "\x7d\x7d".toList, [], false⟩, [], ['a'], Position.start, [], ?_, rfl, rfl, by decide⟩
  rw [(Lexing.tags_ofText Delimiters.standard_plain _).1]
  cbv

/-- The close tag that would have fitted comes too late. -/
theorem parse_definite_crossed :
    Delimiters.standard.Plain ∧ parse .standard crossedSource = .error .crossed ∧
      ParseError.crossed.Definite .standard crossedSource ∧
      ∃ context, parse .standard (crossedSource ++ "\x7b\x7b/a\x7d\x7d") =
        .error { ParseError.crossed with context } := by
  have failed : parse .standard crossedSource = .error .crossed := by cbv
  exact ⟨Delimiters.standard_plain, failed, Tagging.crossed_ofText,
    parse_definite .standard Delimiters.standard_plain _ _ _ failed Tagging.crossed_ofText⟩

end Mustache
