import Mustache.Proofs.LexemeReading

/-!
# The tags that the lexer reads

Under delimiters without white space, the tags of the lexer are the tags of the text: lines decide
only which blanks and line breaks a tag takes with it, and none of these hides a tag.
-/

namespace Mustache

set_option autoImplicit false

namespace Tag

def bare (tag : Tag) : Tag := { tag with leading := [], trailing := [], standalone := false }

theorem settle_eq (atLineStart : Bool) (leading : List Char) (tag : Tag) (after : Cursor) :
    tag.settle atLineStart leading after =
      if atLineStart && tag.mayStandAlone && Text.startsInBlanks after.rest then
        ({ tag with leading, trailing := Text.takeLine after.rest, standalone := true },
          after.pass (Text.takeLine after.rest) (Text.dropLine after.rest))
      else ({ tag with leading }, after) := by
  have line : (after.takeWhile Text.isBlank).1 ++ (after.takeWhile Text.isBlank).2.takeLineBreak.1 =
      Text.takeLine after.rest ∧ (after.takeWhile Text.isBlank).2.takeLineBreak.2 =
        after.pass (Text.takeLine after.rest) (Text.dropLine after.rest) := by
    unfold Text.takeLine Text.dropLine Cursor.takeWhile Cursor.takeLineBreak
    dsimp only [Cursor.pass]
    split <;> simp_all [Position.after_append]
  have blank : after.blankToLineEnd = Text.startsInBlanks after.rest := rfl
  unfold settle
  dsimp only
  rw [line.1, line.2, blank]

/-- A tag takes the blanks before it, and the rest of the line if it stands alone. -/
theorem settle_inv {atLineStart : Bool} {leading : List Char} {tag settled : Tag}
    {after next : Cursor} (isBare : tag.bare = tag)
    (line : tag.settle atLineStart leading after = (settled, next)) :
    settled.standalone =
        (atLineStart && tag.mayStandAlone && Text.startsInBlanks after.rest) ∧
      settled.trailing = (if settled.standalone then Text.takeLine after.rest else []) ∧
      settled =
        { tag with leading, trailing := settled.trailing, standalone := settled.standalone } ∧
      after.rest = settled.trailing ++ next.rest ∧
      next.position = after.position.after settled.trailing := by
  have unmoved := congrArg Tag.trailing isBare
  have notAlone := congrArg Tag.standalone isBare
  rw [settle_eq] at line
  split at line
  · rename_i alone
    cases line
    exact ⟨alone.symm, rfl, rfl, (Text.takeLine_append_dropLine after.rest).symm, rfl⟩
  · rename_i inLine
    cases line
    dsimp only [bare] at unmoved notAlone ⊢
    rw [← unmoved, ← notAlone]
    exact ⟨(Bool.eq_false_iff.2 inLine).symm, rfl, rfl, rfl, rfl⟩

theorem isSpace_of_mem_trailing {atLineStart : Bool} {leading : List Char} {tag settled : Tag}
    {after next : Cursor} (isBare : tag.bare = tag)
    (line : tag.settle atLineStart leading after = (settled, next)) :
    ∀ character ∈ settled.trailing, Text.isSpace character = true := by
  obtain ⟨-, trailing, -, -, -⟩ := settle_inv isBare line
  rw [trailing]
  split
  · exact Text.isSpace_of_mem_takeLine
  · simp

theorem bare_of_scanBare {delimiters : Delimiters} {position : Position} {rest : List Char}
    {next : Cursor} {tag : Tag}
    (read : scanBare delimiters ⟨position, delimiters.mark ++ rest⟩ = .ok (tag, next)) :
    tag.bare = tag := by
  obtain ⟨parts, kind, -, -, rfl, -, -⟩ := scanBare_inv read
  rfl

theorem bare_settled {settled tag : Tag} {leading trailing : List Char} {alone : Bool}
    (isBare : tag.bare = tag)
    (same : settled = { tag with leading, trailing, standalone := alone }) :
    settled.bare = tag := by
  rw [same]
  exact isBare

end Tag

/-- The tags among lexemes, without what they take from their lines. -/
def Lexeme.bareTags (lexemes : List Lexeme) : List Tag :=
  lexemes.filterMap fun
    | .text _ => none
    | .tag found => some found.bare

namespace Lexeme

@[simp]
theorem bareTags_text (content : List Char) (rest : List Lexeme) :
    bareTags (.text content :: rest) = bareTags rest := rfl

@[simp]
theorem bareTags_tag (tag : Tag) (rest : List Lexeme) :
    bareTags (.tag tag :: rest) = tag.bare :: bareTags rest := rfl

@[simp]
theorem bareTags_append (first second : List Lexeme) :
    bareTags (first ++ second) = bareTags first ++ bareTags second :=
  List.filterMap_append

end Lexeme

namespace Lexing

def cons (lexeme : Lexeme) (lexing : Lexing) : Lexing :=
  { lexing with lexemes := lexeme :: lexing.lexemes }

end Lexing

namespace Lexer

/-- A whole run of the lexer, step by step. -/
inductive Runs : Lexer → Lexing → Prop where
  | stop (lexer : Lexer) (plain : lexer.delimiters.Plain) (step : lexer.Steps none) :
      Runs lexer ⟨[], none⟩
  | fail (lexer : Lexer) (plain : lexer.delimiters.Plain) (failure : Failure)
      (step : lexer.Steps (some (.error failure))) : Runs lexer ⟨[], some failure⟩
  | next (lexer following : Lexer) (plain : lexer.delimiters.Plain) (lexeme : Lexeme)
      (lexing : Lexing) (step : lexer.Steps (some (.ok (lexeme, following))))
      (later : Runs following lexing) : Runs lexer (lexing.cons lexeme)

theorem next?_eq_none_iff {lexer : Lexer} : lexer.next? = none ↔ lexer.cursor.rest = [] := by
  unfold next?
  split
  · rename_i ended
    simp [ended]
  · rename_i ahead
    rw [ahead]
    split <;> simp

theorem collect_of_none {lexer : Lexer} (found : List Lexeme) (read : lexer.next? = none) :
    lexer.collect found = ⟨found.reverse, none⟩ := by
  rw [collect]
  split <;> simp_all

theorem collect_of_error {lexer : Lexer} {failure : Failure} (found : List Lexeme)
    (read : lexer.next? = some (.error failure)) :
    lexer.collect found = ⟨found.reverse, some failure⟩ := by
  rw [collect]
  split <;> simp_all

theorem collect_of_ok {lexer next : Lexer} {lexeme : Lexeme} (found : List Lexeme)
    (read : lexer.next? = some (.ok (lexeme, next))) :
    lexer.collect found = next.collect (lexeme :: found) := by
  rw [collect]
  split <;> simp_all

/-- Induction over what a lexer reads, one lexeme at a time. -/
theorem stepwise {motive : Lexer → Prop}
    (ended : ∀ lexer : Lexer, lexer.next? = none → motive lexer)
    (failed : ∀ (lexer : Lexer) (failure : Failure),
      lexer.next? = some (.error failure) → motive lexer)
    (read : ∀ (lexer next : Lexer) (lexeme : Lexeme),
      lexer.next? = some (.ok (lexeme, next)) → motive next → motive lexer)
    (lexer : Lexer) : motive lexer :=
  match step : lexer.next? with
  | none => ended lexer step
  | some (.error failure) => failed lexer failure step
  | some (.ok (lexeme, next)) => read lexer next lexeme step (stepwise ended failed read next)
termination_by lexer.cursor.rest.length
decreasing_by exact lexer.length_next? next lexeme step

theorem collect_eq_cons (lexer : Lexer) : ∀ found : List Lexeme, lexer.collect found =
    ⟨found.reverse ++ (lexer.collect []).lexemes, (lexer.collect []).failure⟩ := by
  -- The statement for the rest of the text is needed for two lists of found lexemes.
  induction lexer using stepwise with
  | ended lexer step =>
    intro found
    simp [collect_of_none _ step]
  | failed lexer failure step =>
    intro found
    simp [collect_of_error _ step]
  | read lexer next lexeme step ih =>
    intro found
    rw [collect_of_ok found step, collect_of_ok [] step, ih (lexeme :: found), ih [lexeme]]
    simp

theorem Steps.plain {lexer next : Lexer} {lexeme : Lexeme} (plain : lexer.delimiters.Plain)
    (step : lexer.Steps (some (.ok (lexeme, next)))) : next.delimiters.Plain := by
  cases step with
  | text content rest nonempty ahead absent settled => exact plain
  | tag leading rest tag settled after next nonempty ahead blanks read line =>
    obtain ⟨parts, kind, -, known, rfl, -, -⟩ := Tag.scanBare_inv read
    obtain ⟨-, -, same, -, -⟩ := Tag.settle_inv rfl line
    have kept : settled.delimitersAfter =
        (parts.toTag lexer.delimiters (lexer.cursor.pass leading
          (lexer.delimiters.mark ++ rest)).position kind).delimitersAfter := by
      rw [same]
      rfl
    rw [kept]
    exact parts.plain_delimitersAfter plain known _

theorem runs_collect (lexer : Lexer) (plain : lexer.delimiters.Plain) :
    lexer.Runs (lexer.collect []) := by
  induction lexer using stepwise with
  | ended lexer read =>
    have step := lexer.steps_next? plain
    rw [read] at step
    rw [collect_of_none [] read]
    exact .stop lexer plain step
  | failed lexer failure read =>
    have step := lexer.steps_next? plain
    rw [read] at step
    rw [collect_of_error [] read]
    exact .fail lexer plain failure step
  | read lexer next lexeme read ih =>
    have step := lexer.steps_next? plain
    rw [read] at step
    rw [collect_of_ok [] read, collect_eq_cons]
    exact .next lexer next plain lexeme _ step (ih (step.plain plain))

theorem Runs.plain {lexer : Lexer} {lexing : Lexing} (runs : lexer.Runs lexing) :
    lexer.delimiters.Plain := by
  cases runs with
  | stop _ allowed _ => exact allowed
  | fail _ allowed _ _ => exact allowed
  | next _ _ allowed _ _ _ _ => exact allowed

theorem Runs.uncons {lexer : Lexer} {lexeme : Lexeme} {rest : List Lexeme}
    {failure : Option Failure} (runs : lexer.Runs ⟨lexeme :: rest, failure⟩) :
    ∃ next : Lexer, lexer.Steps (some (.ok (lexeme, next))) ∧ next.Runs ⟨rest, failure⟩ := by
  generalize whole : (⟨lexeme :: rest, failure⟩ : Lexing) = lexing at runs
  cases runs with
  | stop _ plain step => cases whole
  | fail _ plain violation step => cases whole
  | next _ following plain first remaining step later =>
    obtain ⟨lexemes, failed⟩ := remaining
    cases whole
    exact ⟨following, step, later⟩

/-- Behind a tag, what it took from its line is part of the next gap. -/
theorem scan_behind_settled {delimiters : Delimiters} (plain : delimiters.Plain)
    {atLineStart : Bool} {leading : List Char} {tag settled : Tag} {after next : Cursor}
    (isBare : tag.bare = tag) (line : tag.settle atLineStart leading after = (settled, next)) :
    Tagging.scan delimiters after =
      (Tagging.scan delimiters next).prepend settled.trailing := by
  obtain ⟨-, -, -, split, moved⟩ := Tag.settle_inv isBare line
  have before : after = ⟨after.position, settled.trailing ++ next.rest⟩ := by
    rw [← split]
  have behind : next = ⟨after.position.after settled.trailing, next.rest⟩ := by
    rw [← moved]
  rw [before, behind]
  exact Tagging.scan_spaces_append plain _ (Tag.isSpace_of_mem_trailing isBare line) _

/-- The lexer reads the tags of the text, and stops at the tag that cannot be read. -/
theorem Runs.tags {lexer : Lexer} {lexing : Lexing} (runs : lexer.Runs lexing) :
    (Tagging.scan lexer.delimiters lexer.cursor).tags = Lexeme.bareTags lexing.lexemes ∧
      (Tagging.scan lexer.delimiters lexer.cursor).failure = lexing.failure := by
  induction runs with
  | stop lexer plain step =>
    cases step with
    | done ended =>
      rw [Tagging.scan_of_ended ended]
      exact ⟨rfl, rfl⟩
  | fail lexer plain failure step =>
    cases step with
    | failed leading rest failure nonempty ahead blanks read =>
      have cut := Tagging.until?_mark plain nonempty lexer.cursor.position
        (fun character inside => Text.isSpace_of_isBlank (blanks character inside)) rest
      rw [← ahead] at cut
      rw [Tagging.scan_of_error cut read]
      exact ⟨rfl, rfl⟩
  | next lexer following plain lexeme lexing step later ih =>
    cases step with
    | text content rest nonempty ahead absent settled =>
      have widened := Tagging.scan_append lexer.cursor.position content rest absent
      rw [← ahead] at widened
      rw [widened, Tagging.tags_prepend, Tagging.failure_prepend]
      exact ih
    | tag leading rest tag settled after next nonempty ahead blanks read line =>
      have isBare := Tag.bare_of_scanBare read
      obtain ⟨-, -, same, -, -⟩ := Tag.settle_inv isBare line
      have cut := Tagging.until?_mark plain nonempty lexer.cursor.position
        (fun character inside => Text.isSpace_of_isBlank (blanks character inside)) rest
      rw [← ahead] at cut
      have kept : settled.delimitersAfter = tag.delimitersAfter := by
        rw [same]
        rfl
      rw [kept] at later ih
      -- The scan stops behind the tag, the lexer behind the blanks that the tag took as well.
      have behind := scan_behind_settled (later.plain) isBare line
      rw [Tagging.scan_of_ok cut read, behind]
      rw [Tagging.tags_cons, Tagging.tags_prepend, Tagging.failure_cons, Tagging.failure_prepend]
      refine ⟨?_, ih.2⟩
      have first : settled.bare = tag := Tag.bare_settled isBare same
      rw [ih.1]
      exact congrArg (· :: _) first.symm

end Lexer

/-- The tags of a text are those among its lexemes, up to the same failure. -/
theorem Lexing.tags_ofText {delimiters : Delimiters} (plain : delimiters.Plain)
    (text : List Char) :
    (Tagging.ofText delimiters text).tags =
        Lexeme.bareTags (Lexing.ofText delimiters text).lexemes ∧
      (Tagging.ofText delimiters text).failure = (Lexing.ofText delimiters text).failure :=
  ((Lexer.ofText delimiters text).runs_collect plain).tags

end Mustache
