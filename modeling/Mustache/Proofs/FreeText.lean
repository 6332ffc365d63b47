import Mustache.Proofs.WrittenTags

/-!
# Free text and the white space behind it

The content of a comment or a delimiter change ends before all white space that stands in front of
the close delimiter. What is passed over there afterwards is tag space only. So such a tag is read
exactly if no other white space comes between its content and its close delimiter.
-/

namespace Mustache

set_option autoImplicit false

namespace Text

/-- The white space at the end of a text. -/
def spaceAtEnd (text : List Char) : List Char := (text.reverse.takeWhile isSpace).reverse

theorem trimEnd_append_spaceAtEnd (text : List Char) : trimEnd text ++ spaceAtEnd text = text := by
  rw [trimEnd, spaceAtEnd, ← List.reverse_append, List.takeWhile_append_dropWhile,
    List.reverse_reverse]

theorem isSpace_of_mem_spaceAtEnd {text : List Char} :
    ∀ character ∈ spaceAtEnd text, isSpace character = true := by
  intro character inside
  exact List.all_eq_true.1 List.all_takeWhile character (List.mem_reverse.1 inside)

/-- White space behind a text without any is all of the white space at the end. -/
theorem trim_of_dark {front spaces : List Char} {last : Char} (dark : isSpace last = false)
    (all : ∀ character ∈ spaces, isSpace character = true) :
    trimEnd (front ++ [last] ++ spaces) = front ++ [last] ∧
      spaceAtEnd (front ++ [last] ++ spaces) = spaces := by
  have backwards : ∀ character ∈ spaces.reverse, isSpace character = true :=
    fun character inside => all character (List.mem_reverse.1 inside)
  have stops : StopsAt isSpace (last :: front.reverse) := stopsAt_cons.2 dark
  have turned : (front ++ [last] ++ spaces).reverse = spaces.reverse ++ last :: front.reverse := by
    simp
  unfold trimEnd spaceAtEnd
  rw [turned, dropWhile_of_stopsAt backwards stops, takeWhile_of_stopsAt backwards stops]
  simp

/-- White space of two kinds begins, up to some character, with one of them. -/
theorem exists_wide {spaces : List Char}
    (all : ∀ character ∈ spaces, isSpace character = true)
    (wide : spaces.all isTagSpace = false) :
    ∃ narrow other more, spaces = narrow ++ other :: more ∧
      (∀ character ∈ narrow, isTagSpace character = true) ∧
      isTagSpace other = false ∧ isSpace other = true := by
  have cut : spaces.takeWhile isTagSpace ++ spaces.dropWhile isTagSpace = spaces :=
    List.takeWhile_append_dropWhile
  have stops := stopsAt_dropWhile isTagSpace spaces
  cases known : spaces.dropWhile isTagSpace with
  | nil =>
    rw [List.dropWhile_eq_nil_iff] at known
    rw [List.all_eq_true.2 known] at wide
    cases wide
  | cons other more =>
    rw [known] at cut stops
    refine ⟨_, other, more, cut.symm, List.all_eq_true.1 List.all_takeWhile, stopsAt_cons.1 stops,
      ?_⟩
    apply all
    rw [← cut]
    simp

/-- A word is one word, and white space ends it. -/
theorem words_of_dark {word : List Char} (filled : word ≠ [])
    (dark : ∀ character ∈ word, isSpace character = false) :
    words word = [word] ∧ ∀ (space : Char) (rest : List Char), isSpace space = true →
      words (word ++ space :: rest) = word :: words (space :: rest) := by
  induction word with
  | nil => exact absurd rfl filled
  | cons character word ih =>
    have here : isSpace character = false := dark character List.mem_cons_self
    cases word with
    | nil =>
      refine ⟨?_, ?_⟩
      · simp [words, here]
      · intro space rest spaced
        rw [List.singleton_append, words.eq_def]
        simp [here, spaced]
    | cons next word =>
      have later : isSpace next = false := dark next (by simp)
      obtain ⟨whole, ended⟩ := ih (by simp) fun other inside =>
        dark other (List.mem_cons_of_mem _ inside)
      refine ⟨?_, ?_⟩
      · rw [words.eq_def]
        simp [here, later, whole]
      · intro space rest spaced
        have tail := ended space rest spaced
        rw [List.cons_append] at tail
        rw [List.cons_append, List.cons_append, words.eq_def]
        simp [here, later, tail]

end Text

/-- Where white space is next, no literal without white space is. -/
theorem Cursor.literal?_of_space {literal : List Char}
    (dark : ∀ character ∈ literal, Text.isSpace character = false) {cursor : Cursor}
    {space : Char} {rest : List Char} (spaced : Text.isSpace space = true)
    (ahead : cursor.rest = space :: rest) : cursor.literal? literal = none := by
  unfold literal?
  rw [ahead]
  cases literal with
  | nil => rfl
  | cons head literal =>
    have different : head ≠ space := by
      rintro rfl
      rw [dark head List.mem_cons_self] at spaced
      cases spaced
    simp [Text.stripStart?, different]

namespace Sigil

variable {sigil : Sigil}

theorem closingChar_of_free (free : sigil.takesFreeText = true) :
    sigil.closingChar = sigil.char := by
  cases sigil <;> first | rfl | cases free

theorem isSpace_char (sigil : Sigil) : Text.isSpace sigil.char = false := by
  cases sigil <;> rfl

end Sigil

namespace Tag

variable {sigil : Sigil} {raw : List Char}

/-- The sigil that is repeated at the end of free text, if it is. -/
def repeatedSigil (sigil : Sigil) (raw : List Char) : List Char :=
  if raw.getLast? = some sigil.char then [sigil.char] else []

theorem mem_repeatedSigil {character : Char} (inside : character ∈ repeatedSigil sigil raw) :
    character = sigil.char := by
  unfold repeatedSigil at inside
  split at inside
  · exact List.mem_singleton.1 inside
  · cases inside

/-- The white space between the content of free text and what follows it in the tag. -/
def spaceBehind (sigil : Sigil) (raw : List Char) : List Char :=
  Text.spaceAtEnd (if raw.getLast? = some sigil.char then raw.dropLast else raw)

theorem isSpace_of_mem_spaceBehind :
    ∀ character ∈ spaceBehind sigil raw, Text.isSpace character = true :=
  fun character inside => Text.isSpace_of_mem_spaceAtEnd character inside

theorem freeContent_append (sigil : Sigil) (raw : List Char) :
    freeContent sigil raw ++ (spaceBehind sigil raw ++ repeatedSigil sigil raw) = raw := by
  rw [← List.append_assoc, freeContent, spaceBehind, Text.trimEnd_append_spaceAtEnd, repeatedSigil]
  split
  · rename_i ends
    obtain ⟨front, rfl⟩ := List.getLast?_eq_some_iff.1 ends
    simp
  · exact List.append_nil raw

/-- A character that is neither white space nor the sigil is part of the content. -/
theorem freeContent_ne_nil {character : Char} (inside : character ∈ raw)
    (dark : Text.isSpace character = false) (other : character ≠ sigil.char) :
    freeContent sigil raw ≠ [] := by
  intro empty
  rw [← freeContent_append sigil raw, empty, List.nil_append] at inside
  rcases List.mem_append.1 inside with space | repeated
  · rw [isSpace_of_mem_spaceBehind character space] at dark
    cases dark
  · exact other (mem_repeatedSigil repeated)

/-- Before a repeated sigil, the white space behind a text without any is not content. -/
theorem freeContent_of_repeated {front spaces : List Char} {last : Char}
    (dark : Text.isSpace last = false)
    (all : ∀ character ∈ spaces, Text.isSpace character = true) :
    freeContent sigil (front ++ [last] ++ spaces ++ [sigil.char]) = front ++ [last] ∧
      spaceBehind sigil (front ++ [last] ++ spaces ++ [sigil.char]) = spaces := by
  unfold freeContent spaceBehind
  rw [List.getLast?_concat, if_pos rfl, List.dropLast_concat]
  exact Text.trim_of_dark dark all

theorem content?_of_free (free : sigil.takesFreeText = true) {closing rest : List Char}
    (nonempty : closing ≠ []) (absent : Text.AbsentBefore closing raw (closing ++ rest))
    {cursor : Cursor} (ahead : cursor.rest = raw ++ (closing ++ rest)) :
    content? (some sigil) closing cursor =
      some (freeContent sigil raw, cursor.pass (freeContent sigil raw)
        (spaceBehind sigil raw ++ (repeatedSigil sigil raw ++ (closing ++ rest)))) := by
  have found : cursor.until? closing = some (raw, cursor.pass raw (closing ++ rest)) := by
    unfold Cursor.until?
    rw [ahead, (Text.splitAt?_eq_some_iff nonempty).2 ⟨rfl, List.prefix_append _ _, absent⟩]
    rfl
  have whole : cursor.rest = freeContent sigil raw ++
      (spaceBehind sigil raw ++ (repeatedSigil sigil raw ++ (closing ++ rest))) := by
    rw [ahead]
    conv_lhs => rw [← freeContent_append sigil raw]
    simp only [List.append_assoc]
  unfold content?
  simp only [free, if_true, found, Option.map_some]
  rw [Cursor.take, whole, List.take_left, List.drop_left]

/-- Free text behind a sigil and tag space, up to the first close delimiter. -/
structure FreeText (sigil : Sigil) (space raw closing : List Char) : Prop where
  takes : sigil.takesFreeText = true
  spaces : ∀ character ∈ space, Text.isTagSpace character = true
  begins : Text.StopsAt Text.isTagSpace raw
  filled : freeContent sigil raw ≠ []
  closing_ne : closing ≠ []
  dark : ∀ character ∈ closing, Text.isSpace character = false
  absent : Text.AbsentBefore closing raw closing

/-- White space that is no tag space keeps the close delimiter from being read. -/
theorem FreeText.scanInside_of_wide {delimiters : Delimiters} {space rest : List Char}
    (free : FreeText sigil space raw delimiters.closing.toList) {inside : Cursor}
    (ahead : inside.rest =
      sigil.char :: (space ++ (raw ++ (delimiters.closing.toList ++ rest))))
    (wide : (spaceBehind sigil raw).all Text.isTagSpace = false)
    (atLineStart : Bool) (leading : List Char) (position : Position) :
    scanInside delimiters atLineStart leading position inside =
      .error ⟨.unclosedTag, position⟩ := by
  obtain ⟨narrow, other, more, split, narrowAll, stops, spaced⟩ :=
    Text.exists_wide isSpace_of_mem_spaceBehind wide
  have sigilRead : (inside.takeOne fun character => (Sigil.ofChar? character).isSome) = _ :=
    Cursor.takeOne_eq_cons ahead (by simp [Sigil.ofChar?_char])
  have sigilKnown : [sigil.char].head?.bind Sigil.ofChar? = some sigil := sigil.ofChar?_char
  have rawFilled : raw ≠ [] := by
    rintro rfl
    exact free.filled rfl
  have contentFilled : (freeContent sigil raw).isEmpty = false := by simpa using free.filled
  have unrepeated (tail : List Char) : Text.StopsAt
      (fun character => (some sigil).map Sigil.closingChar == some character) (other :: tail) := by
    apply Text.stopsAt_cons.2
    rw [Option.map_some, Sigil.closingChar_of_free free.takes, beq_eq_false_iff_ne, ne_eq,
      Option.some.injEq]
    rintro rfl
    rw [sigil.isSpace_char] at spaced
    cases spaced
  unfold scanInside
  dsimp only
  rw [sigilRead]
  dsimp only
  rw [sigilKnown, Cursor.takeWhile_eq rfl free.spaces (free.begins.append rawFilled _)]
  dsimp only
  rw [content?_of_free free.takes free.closing_ne (free.absent.extend List.prefix_rfl rest) rfl,
    split]
  dsimp only
  rw [contentFilled, List.append_assoc,
    Cursor.takeWhile_eq rfl narrowAll (Text.stopsAt_cons.2 stops)]
  dsimp only
  rw [List.cons_append, Cursor.takeOne_eq_nil (unrepeated _)]
  dsimp only
  rw [Cursor.literal?_of_space free.dark spaced rfl]
  rfl

/-- Free text fits if only tag space stands behind its content. -/
theorem FreeText.fits {space closing : List Char} (free : FreeText sigil space raw closing)
    (apart : Text.StopsAt (· == sigil.char) closing)
    (narrow : ∀ character ∈ spaceBehind sigil raw, Text.isTagSpace character = true) :
    TagParts.Fits ⟨some sigil, space, freeContent sigil raw, spaceBehind sigil raw,
      repeatedSigil sigil raw⟩ closing where
  closing_ne := free.closing_ne
  unmarked := by
    intro impossible
    cases impossible
  space := free.spaces
  content_ne := free.filled
  content_head := by
    have begins := free.begins
    rw [← freeContent_append sigil raw] at begins
    exact begins.of_append
  name := by
    intro bound
    rw [TagParts.isFree, Option.any_some, free.takes] at bound
    cases bound
  free := by
    intro known same _
    cases same
    refine ⟨raw, [], ?_, ?_, rfl⟩
    · conv_rhs => rw [← freeContent_append sigil raw]
      simp only [List.append_assoc, List.append_nil]
    · rw [List.append_nil]
      exact free.absent
  spaceAfter := narrow
  spaceAfter_end := by
    apply Text.stopsAt_of_dark fun _ => Text.isSpace_of_isTagSpace
    intro character inside
    rcases List.mem_append.1 inside with repeated | behind
    · rw [mem_repeatedSigil repeated]
      exact sigil.isSpace_char
    · exact free.dark character behind
  closed := by
    unfold repeatedSigil
    split
    · exact .inr ⟨sigil, rfl, by rw [Sigil.closingChar_of_free free.takes]⟩
    · refine .inl ⟨rfl, ?_⟩
      intro character found
      rw [Option.map_some, Sigil.closingChar_of_free free.takes]
      have different := apart character found
      simp only [beq_eq_false_iff_ne, ne_eq, Option.some.injEq] at different ⊢
      exact fun same => different same.symm

end Tag

/-- What a template that is one tag with free text parses to, by the white space behind its content:
it must be tag space, otherwise the tag counts as not closed. -/
def freeTextResult (source : String) (node : Node) (behind : List Char) :
    Except ParseError Node :=
  if behind.all Text.isTagSpace then .ok (.sequence [node])
  else .error (Failure.report ⟨.unclosedTag, Position.start⟩ source)

/-- A template that is one tag with free text, which holds the first close delimiter at its end. -/
theorem parse_of_free {delimiters : Delimiters} (worded : delimiters.Worded) {sigil : Sigil}
    {space raw : List Char} (free : Tag.FreeText sigil space raw delimiters.closing.toList)
    (apart : Text.StopsAt (· == sigil.char) delimiters.closing.toList) {kind : TagKind}
    (known : TagKind.of? (some sigil) (Tag.freeContent sigil raw) = some kind)
    {node : Node}
    (leaf : (TagParts.toTag ⟨some sigil, space, Tag.freeContent sigil raw,
      Tag.spaceBehind sigil raw, Tag.repeatedSigil sigil raw⟩ delimiters Position.start
      kind).node? = some node)
    {source : String} (spelled : source.toList = delimiters.mark ++
      (sigil.char :: (space ++ (raw ++ delimiters.closing.toList)))) :
    parse delimiters source = freeTextResult source node (Tag.spaceBehind sigil raw) := by
  unfold freeTextResult
  cases narrow : (Tag.spaceBehind sigil raw).all Text.isTagSpace with
  | true =>
    have fits := free.fits apart (List.all_eq_true.1 narrow)
    refine parse_of_fits worded.plain worded.opening fits known leaf ?_
    have whole := Tag.freeContent_append sigil raw
    rw [spelled]
    conv_lhs => rw [← whole]
    simp [TagParts.inner, TagParts.sigilText]
  | false =>
    refine parse_of_unread worded.plain worded.opening ?_ spelled
    have ahead : (Cursor.take ⟨Position.start, delimiters.mark ++ (sigil.char :: (space ++
        (raw ++ delimiters.closing.toList)))⟩ delimiters.mark.length).2.rest =
          sigil.char :: (space ++ (raw ++ (delimiters.closing.toList ++ []))) := by
      simp [Cursor.take, Cursor.pass]
    exact free.scanInside_of_wide ahead narrow _ _ _

section

variable {text opening closing space : String}

/-- A comment has one character at least that is neither white space nor its sigil. -/
theorem parse_comment
    (filled : ∃ character ∈ text.toList, Text.isSpace character = false ∧ character ≠ '!')
    (absent : Text.AbsentBefore Delimiters.standard.closing.toList text.toList
      Delimiters.standard.closing.toList) :
    parse Delimiters.standard ("\x7b\x7b!" ++ text ++ "\x7d\x7d") =
      freeTextResult ("\x7b\x7b!" ++ text ++ "\x7d\x7d")
        (.comment (String.ofList (Tag.freeContent .bang
          (text.toList.dropWhile Text.isTagSpace))) Position.start)
        (Tag.spaceBehind .bang (text.toList.dropWhile Text.isTagSpace)) := by
  obtain ⟨character, inside, dark, other⟩ := filled
  have unmarked : character ≠ Sigil.bang.char := other
  have split : text.toList.takeWhile Text.isTagSpace ++ text.toList.dropWhile Text.isTagSpace =
      text.toList := List.takeWhile_append_dropWhile
  have kept : character ∈ text.toList.dropWhile Text.isTagSpace := by
    rw [← split] at inside
    rcases List.mem_append.1 inside with space | kept
    · rw [Text.isSpace_of_isTagSpace (List.all_eq_true.1 List.all_takeWhile _ space)] at dark
      cases dark
    · exact kept
  rw [← split] at absent
  have free : Tag.FreeText .bang (text.toList.takeWhile Text.isTagSpace)
      (text.toList.dropWhile Text.isTagSpace) Delimiters.standard.closing.toList :=
    ⟨rfl, List.all_eq_true.1 List.all_takeWhile, Text.stopsAt_dropWhile _ _,
      Tag.freeContent_ne_nil kept dark unmarked, Delimiters.standard_worded.closing,
      Delimiters.standard_plain.closing, absent.right⟩
  apply parse_of_free Delimiters.standard_worded free (Text.stopsAt_cons.2 rfl) rfl rfl
  rw [← List.append_assoc _ (text.toList.dropWhile Text.isTagSpace), split]
  simp only [String.toList_append, List.append_assoc]
  rfl

/-- A word that no standard close delimiter lies in. -/
structure Text.Word (word : List Char) : Prop where
  filled : word ≠ []
  dark : ∀ character ∈ word, isSpace character = false
  clear : ¬ Delimiters.standard.closing.toList <:+: word

theorem Text.Word.stopsAt {word : List Char} (known : Word word) (rest : List Char) :
    StopsAt isTagSpace (word ++ rest) :=
  (stopsAt_of_dark (fun _ => isSpace_of_isTagSpace) known.dark).append known.filled rest

theorem Delimiters.parse?_of_words (first : Text.Word opening.toList)
    (second : Text.Word closing.toList) :
    parse? (opening.toList ++ ' ' :: closing.toList) = some ⟨opening, closing⟩ := by
  unfold parse?
  rw [(Text.words_of_dark first.filled first.dark).2 ' ' _ rfl, Text.words.eq_def]
  simp [(Text.words_of_dark second.filled second.dark).1, Text.isSpace]

/-- Two words and the white space around them hold no standard close delimiter. -/
theorem absentBefore_of_words (first : Text.Word opening.toList) (second : Text.Word closing.toList)
    (spaces : ∀ character ∈ space.toList, Text.isSpace character = true) :
    Text.AbsentBefore Delimiters.standard.closing.toList
      (opening.toList ++ ' ' :: (closing.toList ++ space.toList ++ ['=']))
      Delimiters.standard.closing.toList := by
  have outside : ∀ character ∈ space.toList ++ ['='],
      character ∉ Delimiters.standard.closing.toList := by
    intro character inside
    rcases List.mem_append.1 inside with spaced | equals
    · intro brace
      have same := spaces character spaced
      rw [Delimiters.standard_plain.closing character brace] at same
      cases same
    · rw [List.mem_singleton.1 equals]
      decide
  obtain ⟨separator, rest, begins⟩ := List.exists_cons_of_ne_nil
    (show space.toList ++ ['='] ≠ [] by simp)
  rw [begins] at outside
  rw [List.append_assoc, begins]
  apply Text.AbsentBefore.append_cons (by decide) (by decide)
    (Text.absentBefore_of_not_isInfix first.clear)
  apply Text.AbsentBefore.append_cons (outside separator List.mem_cons_self) (by decide)
    (Text.absentBefore_of_not_isInfix second.clear)
  exact Text.absentBefore_of_not_mem (fun brace =>
    outside _ (List.mem_cons_of_mem _ brace) List.mem_cons_self) _

theorem parse_delimiterChange (first : Text.Word opening.toList)
    (second : Text.Word closing.toList)
    (spaces : ∀ character ∈ space.toList, Text.isSpace character = true) :
    parse Delimiters.standard
        ("\x7b\x7b=" ++ opening ++ " " ++ closing ++ space ++ "=\x7d\x7d") =
      freeTextResult ("\x7b\x7b=" ++ opening ++ " " ++ closing ++ space ++ "=\x7d\x7d")
        (.delimiters ⟨opening, closing⟩ Position.start) space.toList := by
  obtain ⟨front, last, ended⟩ :=
    (List.eq_nil_or_concat closing.toList).resolve_left second.filled
  rw [List.concat_eq_append] at ended
  have dark : Text.isSpace last = false := second.dark last (by simp [ended])
  have whole : opening.toList ++ ' ' :: (closing.toList ++ space.toList ++ ['=']) =
      opening.toList ++ ' ' :: front ++ [last] ++ space.toList ++ [Sigil.equals.char] := by
    simp [ended, Sigil.char]
  have pair : opening.toList ++ ' ' :: closing.toList =
      opening.toList ++ ' ' :: front ++ [last] := by
    simp [ended]
  obtain ⟨content, behind⟩ : Tag.freeContent .equals
        (opening.toList ++ ' ' :: (closing.toList ++ space.toList ++ ['='])) =
          opening.toList ++ ' ' :: closing.toList ∧
      Tag.spaceBehind .equals
        (opening.toList ++ ' ' :: (closing.toList ++ space.toList ++ ['='])) = space.toList := by
    rw [whole, pair]
    exact Tag.freeContent_of_repeated dark spaces
  have changes : TagKind.of? (some .equals) (Tag.freeContent .equals
      (opening.toList ++ ' ' :: (closing.toList ++ space.toList ++ ['=']))) =
        some (.setDelimiters ⟨opening, closing⟩) := by
    rw [content]
    exact congrArg (Option.map TagKind.setDelimiters) (Delimiters.parse?_of_words first second)
  have filled : Tag.freeContent .equals
      (opening.toList ++ ' ' :: (closing.toList ++ space.toList ++ ['='])) ≠ [] := by
    rw [content]
    simp
  have free : Tag.FreeText .equals []
      (opening.toList ++ ' ' :: (closing.toList ++ space.toList ++ ['=']))
      Delimiters.standard.closing.toList :=
    ⟨rfl, by simp, first.stopsAt _, filled, Delimiters.standard_worded.closing,
      Delimiters.standard_plain.closing, absentBefore_of_words first second spaces⟩
  rw [← behind]
  apply parse_of_free Delimiters.standard_worded free (Text.stopsAt_cons.2 rfl) changes rfl
  simp only [String.toList_append, List.append_assoc, List.cons_append, List.nil_append]
  rfl

end

/-- A comment and a delimiter change are read exactly if no other white space than tag space stands
before their close delimiter; otherwise they are not closed, although the delimiter is there. -/
theorem parse_freeText (text opening closing space : String) :
    ((∃ character ∈ text.toList, Text.isSpace character = false ∧ character ≠ '!') →
      Text.AbsentBefore Delimiters.standard.closing.toList text.toList
        Delimiters.standard.closing.toList →
      parse Delimiters.standard ("\x7b\x7b!" ++ text ++ "\x7d\x7d") =
        freeTextResult ("\x7b\x7b!" ++ text ++ "\x7d\x7d")
          (.comment (String.ofList (Tag.freeContent .bang
            (text.toList.dropWhile Text.isTagSpace))) Position.start)
          (Tag.spaceBehind .bang (text.toList.dropWhile Text.isTagSpace))) ∧
    (Text.Word opening.toList → Text.Word closing.toList →
      (∀ character ∈ space.toList, Text.isSpace character = true) →
      parse Delimiters.standard
          ("\x7b\x7b=" ++ opening ++ " " ++ closing ++ space ++ "=\x7d\x7d") =
        freeTextResult ("\x7b\x7b=" ++ opening ++ " " ++ closing ++ space ++ "=\x7d\x7d")
          (.delimiters ⟨opening, closing⟩ Position.start) space.toList) :=
  ⟨parse_comment, parse_delimiterChange⟩

theorem Text.word_percent : Word "<%".toList ∧ Word "%>".toList := by
  have clear (first second : Char) (other : first ≠ '\x7d') :
      ¬ ['\x7d', '\x7d'] <:+: [first, second] := by
    intro inside
    have same := inside.eq_of_length rfl
    rw [List.cons.injEq] at same
    exact other same.1.symm
  exact ⟨⟨by simp, by simp [isSpace], clear _ _ (by decide)⟩,
    ⟨by simp, by simp [isSpace], clear _ _ (by decide)⟩⟩

theorem parse_freeText_narrow :
    parse Delimiters.standard ("\x7b\x7b!" ++ "\x0b a! " ++ "\x7d\x7d") =
        .ok (.sequence [.comment "\x0b a!" Position.start]) ∧
      parse Delimiters.standard
          ("\x7b\x7b=" ++ "<%" ++ " " ++ "%>" ++ "\n\x0c" ++ "=\x7d\x7d") =
        .ok (.sequence [.delimiters ⟨"<%", "%>"⟩ Position.start]) := by
  obtain ⟨comment, change⟩ := parse_freeText "\x0b a! " "<%" "%>" "\n\x0c"
  constructor
  · apply comment ⟨'a', by simp, by decide, by decide⟩
    exact Text.absentBefore_of_not_mem (show '\x7d' ∉ "\x0b a! ".toList by simp) _
  · apply change
    · exact Text.word_percent.1
    · exact Text.word_percent.2
    · simp [Text.isSpace]

/-- A vertical tab is white space and no tag space. -/
theorem unread_of_verticalTab :
    ((∃ character ∈ "a\x0b".toList, Text.isSpace character = false ∧ character ≠ '!') ∧
      Text.AbsentBefore Delimiters.standard.closing.toList "a\x0b".toList
        Delimiters.standard.closing.toList ∧
      ∀ content position, parse Delimiters.standard ("\x7b\x7b!" ++ "a\x0b" ++ "\x7d\x7d") ≠
        .ok (.sequence [.comment content position])) ∧
    (Text.Word "<%".toList ∧ Text.Word "%>".toList ∧
      (∀ character ∈ "\x0b".toList, Text.isSpace character = true) ∧
      ∀ position, parse Delimiters.standard
          ("\x7b\x7b=" ++ "<%" ++ " " ++ "%>" ++ "\x0b" ++ "=\x7d\x7d") ≠
        .ok (.sequence [.delimiters ⟨"<%", "%>"⟩ position])) := by
  have filled : ∃ character ∈ "a\x0b".toList,
      Text.isSpace character = false ∧ character ≠ '!' :=
    ⟨'a', by simp, by decide, by decide⟩
  have absent : Text.AbsentBefore Delimiters.standard.closing.toList "a\x0b".toList
      Delimiters.standard.closing.toList :=
    Text.absentBefore_of_not_mem (show '\x7d' ∉ "a\x0b".toList by simp) _
  obtain ⟨first, second⟩ := Text.word_percent
  have spaces : ∀ character ∈ "\x0b".toList, Text.isSpace character = true := by
    simp [Text.isSpace]
  refine ⟨⟨filled, absent, ?_⟩, first, second, spaces, ?_⟩
  · intro content position read
    rw [parse_comment filled absent] at read
    cases read
  · intro position read
    rw [parse_delimiterChange first second spaces] at read
    cases read

end Mustache
