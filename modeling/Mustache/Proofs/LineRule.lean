import Mustache.Proofs.LexedTags

/-!
# The line rule

A tag whose sigil allows it stands alone if only blanks stand before it on its line and only blanks
behind it up to the line break. It then takes these blanks and the line break with it; all other
text between tags stays. The lexer follows this rule for the whole text.
-/

namespace Mustache

set_option autoImplicit false

/-- A literal character, or a mark for a tag. -/
inductive Symbol (Mark : Type) where
  | char (character : Char)
  | mark (mark : Mark)

namespace Symbol

def map {First Second : Type} (rename : First → Second) : Symbol First → Symbol Second
  | char character => char character
  | mark found => mark (rename found)

def source : Symbol Tag → List Char
  | char character => [character]
  | mark tag => tag.source

end Symbol

def Text.symbols {Mark : Type} (text : List Char) : List (Symbol Mark) := text.map .char

namespace Text

variable {Mark : Type}

@[simp]
theorem symbols_nil : (symbols [] : List (Symbol Mark)) = [] := rfl

@[simp]
theorem symbols_append (first second : List Char) :
    (symbols (first ++ second) : List (Symbol Mark)) = symbols first ++ symbols second :=
  List.map_append

@[simp]
theorem map_symbols {Other : Type} (rename : Mark → Other) (text : List Char) :
    (symbols text).map (Symbol.map rename) = symbols text :=
  List.map_map

@[simp]
theorem source_symbols (text : List Char) : (symbols text).flatMap Symbol.source = text := by
  induction text with
  | nil => rfl
  | cons character rest ih => exact congrArg (character :: ·) ih

end Text

/-- Text before a tag that does not stand alone is literal, other blanks are part of the tag. -/
def Lexeme.symbols : Lexeme → List (Symbol Tag)
  | .text content => Text.symbols content
  | .tag found => (if found.standalone then [] else Text.symbols found.leading) ++
      [.mark { found with leading := found.indentation }]

/-- The line rule for a tag between two texts. -/
def Tag.StandsAlone (tag : Tag) (front back : List Char) : Prop :=
  tag.mayStandAlone = true ∧ Text.BlankAround front back

instance (tag : Tag) (front back : List Char) : Decidable (tag.StandsAlone front back) :=
  inferInstanceAs (Decidable (_ ∧ _))

theorem Tag.standsAlone_iff (tag : Tag) (front back : List Char) :
    tag.StandsAlone front back ↔
      (tag.mayStandAlone && Text.endsInBlanks front && Text.startsInBlanks back) = true := by
  rw [StandsAlone, Text.blankAround_iff, Bool.and_assoc, Bool.and_eq_true tag.mayStandAlone]

namespace Tagging

def textOf (segments : List Segment) (tail : List Char) : List Char :=
  segments.flatMap (fun segment => segment.gap ++ segment.tag.span) ++ tail

def text (tagging : Tagging) : List Char := textOf tagging.segments tagging.tail

/-- The literal characters and tags of a text by the line rule. `before` is the text before the
segments, and `afterAlone` says whether it ends with a tag that stands alone. -/
def symbolsFrom (before : List Char) (afterAlone : Bool) :
    List Segment → List Char → List (Symbol Tag)
  | [], tail => Text.symbols (if afterAlone then Text.dropLine tail else tail)
  | segment :: rest, tail =>
    let front := before ++ segment.gap
    let back := textOf rest tail
    let gap := if afterAlone then Text.dropLine segment.gap else segment.gap
    if segment.tag.StandsAlone front back then
      Text.symbols (Text.dropBlanksAtEnd gap) ++
        .mark { segment.tag with
          leading := Text.blanksAtEnd gap, trailing := Text.takeLine back, standalone := true } ::
          symbolsFrom (front ++ segment.tag.span) true rest tail
    else
      Text.symbols gap ++ .mark segment.tag ::
        symbolsFrom (front ++ segment.tag.span) false rest tail

/-- The literal characters and tags of a whole text by the line rule. -/
def symbols (tagging : Tagging) : List (Symbol Tag) :=
  symbolsFrom [] false tagging.segments tagging.tail

@[simp]
theorem text_cons (segment : Segment) (tagging : Tagging) :
    (tagging.cons segment).text = segment.gap ++ segment.tag.span ++ tagging.text := by
  simp [text, textOf, cons]

/-- Gaps and tags make up the text that was searched. -/
theorem text_scan (delimiters : Delimiters) (cursor : Cursor) :
    (scan delimiters cursor).text = cursor.rest := by
  fun_induction scan delimiters cursor with
  | case1 delimiters cursor absent => rfl
  | case2 delimiters cursor gap found cut failure read => rfl
  | case3 delimiters cursor gap found cut tag next read ih =>
    obtain ⟨rest, rfl, split⟩ := until?_inv cut
    obtain ⟨parts, kind, -, -, same, ahead, -⟩ := Tag.scanBare_inv read
    rw [text_cons, ih, split, same, TagParts.span_toTag, ahead]
    simp

/-- Text in front stays literal unless it ends in blanks that the first tag takes. -/
theorem symbolsFrom_prepend (tagging : Tagging) (before text : List Char)
    (settled : Text.Settled (before ++ text) ∨ tagging.segments = []) :
    symbolsFrom before false (tagging.prepend text).segments (tagging.prepend text).tail =
      Text.symbols text ++ symbolsFrom (before ++ text) false tagging.segments tagging.tail := by
  unfold prepend
  cases known : tagging.segments with
  | nil => simp [symbolsFrom]
  | cons first rest =>
    have started : Text.Settled (before ++ text) := by
      rcases settled with started | none
      · exact started
      · rw [known] at none
        cases none
    unfold symbolsFrom
    simp only [← List.append_assoc, Bool.false_eq_true, if_false]
    split
    · rename_i alone
      rw [Tag.standsAlone_iff, Bool.and_eq_true, Bool.and_eq_true] at alone
      obtain ⟨kept, blanks⟩ := started.blanksAtEnd_append alone.1.2
      rw [kept, blanks, Text.symbols_append, List.append_assoc]
    · rw [Text.symbols_append, List.append_assoc]

/-- Behind a tag that stands alone, the next segment is read from the next line on. -/
theorem symbolsFrom_takeLine (tagging : Tagging) (before : List Char) {text : List Char}
    (starts : Text.startsInBlanks text = true) (same : tagging.text = Text.dropLine text) :
    symbolsFrom before true (tagging.prepend (Text.takeLine text)).segments
        (tagging.prepend (Text.takeLine text)).tail =
      symbolsFrom (before ++ Text.takeLine text) false tagging.segments tagging.tail := by
  unfold prepend
  cases known : tagging.segments with
  | nil =>
    have inside : tagging.tail <+: Text.dropLine text := by
      rw [← same, Tagging.text, textOf, known]
      exact List.prefix_refl _
    simp [symbolsFrom, Text.dropLine_takeLine_append starts inside]
  | cons first rest =>
    have inside : first.gap <+: Text.dropLine text := by
      rw [← same, Tagging.text, textOf, known, List.flatMap_cons, List.append_assoc,
        List.append_assoc]
      exact List.prefix_append _ _
    simp only [symbolsFrom, ← List.append_assoc, if_true, Bool.false_eq_true, if_false,
      Text.dropLine_takeLine_append starts inside]

/-- A tag that stands alone takes the blanks before it and the rest of its line. -/
theorem symbolsFrom_cons_alone (tagging : Tagging) {before leading : List Char} {tag : Tag}
    (blanks : ∀ character ∈ leading, Text.isBlank character = true)
    (alone : tag.StandsAlone (before ++ leading) tagging.text) :
    symbolsFrom before false (tagging.cons ⟨leading, tag⟩).segments tagging.tail =
      .mark { tag with leading, trailing := Text.takeLine tagging.text, standalone := true } ::
        symbolsFrom (before ++ leading ++ tag.span) true tagging.segments tagging.tail := by
  have taken := Text.dropBlanksAtEnd_of_blank blanks
  dsimp only [cons]
  rw [symbolsFrom.eq_2]
  change (if tag.StandsAlone (before ++ leading) tagging.text then _ else _) = _
  rw [if_pos alone]
  simp only [Bool.false_eq_true, if_false, taken.1, taken.2, Text.symbols_nil, List.nil_append]
  rfl

theorem symbolsFrom_cons_inline (tagging : Tagging) {before leading : List Char} {tag : Tag}
    (inLine : ¬ tag.StandsAlone (before ++ leading) tagging.text) :
    symbolsFrom before false (tagging.cons ⟨leading, tag⟩).segments tagging.tail =
      Text.symbols leading ++ .mark tag ::
        symbolsFrom (before ++ leading ++ tag.span) false tagging.segments tagging.tail := by
  dsimp only [cons]
  rw [symbolsFrom.eq_2]
  change (if tag.StandsAlone (before ++ leading) tagging.text then _ else _) = _
  rw [if_neg inLine]
  rfl

end Tagging

namespace Lexer

/-- The column tells whether a line begins, which settled text decides like the line rule. -/
theorem atLineStart_eq {cursor : Cursor} {before : List Char}
    (placed : cursor.position = Position.start.after before) (settled : Text.Settled before) :
    cursor.atLineStart = Text.endsInBlanks before := by
  unfold Cursor.atLineStart
  rw [placed, Bool.eq_iff_iff, beq_iff_eq, Position.column_after_start]
  exact ⟨Text.endsInBlanks_of_endsLine, settled⟩

/-- A tag is settled in its line by the line rule. -/
theorem symbolsFrom_settled {delimiters : Delimiters} (plain : delimiters.Plain)
    {cursor after next : Cursor} {before leading : List Char} {tag settled : Tag}
    (placed : cursor.position = Position.start.after before) (started : Text.Settled before)
    (blanks : ∀ character ∈ leading, Text.isBlank character = true) (isBare : tag.bare = tag)
    (line : tag.settle cursor.atLineStart leading after = (settled, next)) :
    Tagging.symbolsFrom before false
        ((Tagging.scan delimiters after).cons ⟨leading, tag⟩).segments
        (Tagging.scan delimiters after).tail =
      Lexeme.symbols (.tag settled) ++
        Tagging.symbolsFrom (before ++ leading ++ tag.span ++ settled.trailing) false
          (Tagging.scan delimiters next).segments (Tagging.scan delimiters next).tail := by
  have behind := scan_behind_settled plain isBare line
  have text : (Tagging.scan delimiters after).text = after.rest :=
    Tagging.text_scan delimiters after
  obtain ⟨alone, trailing, same, split, -⟩ := Tag.settle_inv isBare line
  have rule : tag.StandsAlone (before ++ leading) (Tagging.scan delimiters after).text ↔
      settled.standalone = true := by
    rw [Tag.standsAlone_iff, alone, atLineStart_eq placed started,
      Text.endsInBlanks_append_blanks before blanks, Bool.and_comm tag.mayStandAlone, text]
  cases standalone : settled.standalone with
  | true =>
    rw [standalone] at rule trailing same
    simp only [if_true] at trailing
    rw [trailing] at same behind split
    have starts : Text.startsInBlanks after.rest = true := by
      rw [standalone, eq_comm, Bool.and_eq_true] at alone
      exact alone.2
    have nextLine : (Tagging.scan delimiters next).text = Text.dropLine after.rest := by
      have cut := split.symm.trans (Text.takeLine_append_dropLine after.rest).symm
      rw [Tagging.text_scan]
      exact List.append_cancel_left cut
    rw [Tagging.symbolsFrom_cons_alone _ blanks (rule.2 rfl), text, behind,
      Tagging.symbolsFrom_takeLine _ _ starts nextLine, trailing]
    rw [same]
    rfl
  | false =>
    rw [standalone] at rule trailing same
    simp only [Bool.false_eq_true, if_false] at trailing
    rw [trailing] at same behind
    rw [Tagging.symbolsFrom_cons_inline _ (by simp [rule]), behind, Tagging.prepend_nil, trailing,
      List.append_nil]
    have marked : Lexeme.symbols (.tag settled) = Text.symbols leading ++ [.mark tag] := by
      rw [same]
      exact congrArg (fun found => Text.symbols leading ++ [.mark found]) isBare
    rw [marked]
    simp

/-- The text up to the end of a tag and what the tag takes is settled. -/
theorem settled_behind {delimiters : Delimiters} (plain : delimiters.Plain)
    {position : Position} {rest : List Char} {after : Cursor} {tag : Tag}
    (read : Tag.scanBare delimiters ⟨position, delimiters.mark ++ rest⟩ = .ok (tag, after))
    (before : List Char) {trailing : List Char}
    (taken : trailing = [] ∨ trailing = Text.takeLine after.rest) :
    Text.Settled (before ++ tag.span ++ trailing) := by
  obtain ⟨parts, kind, fits, -, same, -, -⟩ := Tag.scanBare_inv read
  rcases List.eq_nil_or_concat delimiters.closing.toList with none | ⟨front, last, split⟩
  · exact absurd none fits.closing_ne
  · rw [List.concat_eq_append] at split
    have dark : Text.isSpace last = false := by
      apply plain.closing
      rw [split]
      simp
    have ends : before ++ tag.span =
        before ++ delimiters.mark ++ parts.inner ++ front ++ [last] := by
      rw [same, TagParts.span_toTag, split]
      simp
    rw [ends]
    rcases taken with rfl | rfl
    · exact Text.settled_takeLine _ [] dark
    · exact Text.settled_takeLine _ _ dark

/-- The lexer has read `before`, and begins a line whenever only blanks precede it there. -/
def Placed (before : List Char) (lexer : Lexer) : Prop :=
  lexer.cursor.position = Position.start.after before ∧
    (Text.Settled before ∨ lexer.cursor.rest = [])

theorem placed_ofText (delimiters : Delimiters) (text : List Char) :
    (ofText delimiters text).Placed [] :=
  ⟨rfl, .inl Text.settled_nil⟩

theorem Placed.settled {before : List Char} {lexer : Lexer} (placed : lexer.Placed before)
    (ahead : lexer.cursor.rest ≠ []) : Text.Settled before := by
  rcases placed.2 with settled | ended
  · exact settled
  · exact absurd ended ahead

theorem Steps.placed {lexer next : Lexer} {lexeme : Lexeme} (plain : lexer.delimiters.Plain)
    (step : lexer.Steps (some (.ok (lexeme, next)))) {before : List Char}
    (placed : lexer.Placed before) : next.Placed (before ++ lexeme.source) := by
  cases step with
  | text content rest nonempty ahead absent ends =>
    refine ⟨?_, ?_⟩
    · rw [Position.after_append, ← placed.1]
      rfl
    · rcases ends with ended | kept
      · exact .inr ended
      · exact .inl (kept before)
  | tag leading rest tag settled after next nonempty ahead blanks read line =>
    obtain ⟨-, trailing, same, -, moved⟩ := Tag.settle_inv (Tag.bare_of_scanBare read) line
    obtain ⟨-, -, -, -, -, -, placedAfter⟩ := Tag.scanBare_inv read
    have source : before ++ Lexeme.source (.tag settled) =
        before ++ leading ++ tag.span ++ settled.trailing := by
      rw [same]
      simp [Lexeme.source, Tag.source, Tag.span]
    rw [source]
    refine ⟨?_, .inl ?_⟩
    · rw [moved, placedAfter, Position.after_append, Position.after_append,
        Position.after_append, ← placed.1]
    · apply settled_behind plain read (before ++ leading)
      rw [trailing]
      split
      · exact .inr rfl
      · exact .inl rfl

/-- A run of the lexer follows the line rule. `before` is the text before the cursor. -/
theorem Runs.symbols {lexer : Lexer} {lexing : Lexing} (runs : lexer.Runs lexing)
    (complete : lexing.failure = none) (before : List Char) (placed : lexer.Placed before) :
    lexing.lexemes.flatMap Lexeme.symbols =
      Tagging.symbolsFrom before false (Tagging.scan lexer.delimiters lexer.cursor).segments
        (Tagging.scan lexer.delimiters lexer.cursor).tail := by
  induction runs generalizing before with
  | stop lexer plain step =>
    cases step with
    | done ended =>
      rw [Tagging.scan_of_ended ended]
      rfl
  | fail lexer plain failure step => cases complete
  | next lexer following plain lexeme lexing step later ih =>
    have placedNext := step.placed plain placed
    have tail := ih complete _ placedNext
    cases step with
    | text content rest nonempty ahead absent ends =>
      have widened := Tagging.scan_append lexer.cursor.position content rest absent
      rw [← ahead] at widened
      rw [widened, Tagging.symbolsFrom_prepend]
      · exact congrArg (Text.symbols content ++ ·) tail
      -- A text either leaves the line settled for the next tag, or no tag comes after it.
      · rcases placedNext.2 with kept | ended
        · exact .inl kept
        · have none : Tagging.scan lexer.delimiters
              ⟨lexer.cursor.position.after content, rest⟩ = ⟨[], [], none⟩ :=
            Tagging.scan_of_ended ended
          rw [none]
          exact .inr rfl
    | tag leading rest tag settled after next nonempty ahead blanks read line =>
      have isBare := Tag.bare_of_scanBare read
      obtain ⟨-, -, same, -, -⟩ := Tag.settle_inv isBare line
      have kept : settled.delimitersAfter = tag.delimitersAfter := by
        rw [same]
        rfl
      have source : before ++ Lexeme.source (.tag settled) =
          before ++ leading ++ tag.span ++ settled.trailing := by
        rw [same]
        simp [Lexeme.source, Tag.source, Tag.span]
      rw [kept] at later
      rw [source] at tail
      dsimp only at tail
      rw [kept] at tail
      have started := placed.settled (by simp [ahead, nonempty])
      have cut := Tagging.until?_mark plain nonempty lexer.cursor.position
        (fun character inside => Text.isSpace_of_isBlank (blanks character inside)) rest
      rw [← ahead] at cut
      have first := symbolsFrom_settled later.plain placed.1 started blanks isBare line
      rw [Tagging.scan_of_ok cut read]
      refine Eq.trans ?_ first.symm
      exact congrArg (Lexeme.symbols (.tag settled) ++ ·) tail

/-- A run that is not cut short reads all of the text. -/
theorem Runs.source {lexer : Lexer} {lexing : Lexing} (runs : lexer.Runs lexing)
    (complete : lexing.failure = none) :
    lexing.lexemes.flatMap Lexeme.source = lexer.cursor.rest := by
  induction runs with
  | stop lexer plain step =>
    cases step with
    | done ended => exact ended.symm
  | fail lexer plain failure step => cases complete
  | next lexer following plain lexeme lexing step later ih =>
    have rest := ih complete
    cases step with
    | text content rest nonempty ahead absent ends =>
      rw [ahead]
      exact congrArg (content ++ ·) rest
    | tag leading rest tag settled after next nonempty ahead blanks read line =>
      obtain ⟨-, -, same, split, -⟩ := Tag.settle_inv (Tag.bare_of_scanBare read) line
      obtain ⟨parts, kind, -, -, tagSame, tail, -⟩ := Tag.scanBare_inv read
      have source : settled.source = leading ++ tag.span ++ settled.trailing := by
        rw [same]
        rfl
      change settled.source ++ lexing.lexemes.flatMap Lexeme.source = _
      rw [rest, source, ahead, tail, split, tagSame, TagParts.span_toTag]
      simp

end Lexer

theorem Lexeme.source_symbols (lexeme : Lexeme) :
    lexeme.symbols.flatMap Symbol.source = lexeme.source := by
  cases lexeme with
  | text content => exact Text.source_symbols content
  | tag tag =>
    unfold symbols source
    cases alone : tag.standalone with
    | true => simp [Symbol.source, Tag.source, Tag.span, Tag.indentation, alone]
    | false => simp [Symbol.source, Tag.source, Tag.span, Tag.indentation, alone]

/-- The lexemes of a whole text spell it by the line rule. -/
theorem Lexing.symbols_ofText {delimiters : Delimiters} (plain : delimiters.Plain)
    {text : List Char} (complete : (Lexing.ofText delimiters text).failure = none) :
    (Lexing.ofText delimiters text).lexemes.flatMap Lexeme.symbols =
      (Tagging.ofText delimiters text).symbols :=
  ((Lexer.ofText delimiters text).runs_collect plain).symbols complete []
    (Lexer.placed_ofText delimiters text)

/-- The symbols of a text hold every character of it, once and in order. -/
theorem Tagging.source_symbols {delimiters : Delimiters} (plain : delimiters.Plain)
    {text : List Char} (complete : (Lexing.ofText delimiters text).failure = none) :
    (Tagging.ofText delimiters text).symbols.flatMap Symbol.source = text := by
  have source := ((Lexer.ofText delimiters text).runs_collect plain).source complete
  rw [← Lexing.symbols_ofText plain complete, List.flatMap_assoc]
  simp only [Lexeme.source_symbols]
  exact source

end Mustache
