import Mustache.Command.Session
import Mustache.Proofs.Blocks
import Mustache.Proofs.LineBoundary
import Mustache.Proofs.Verdict
import Mustache.Proofs.WrittenTags

/-!
# Entries that can be finished

A session goes on with an entry as long as its parse error is an open section. That error has two
reasons. Where the sections are open at the end, close tags finish the entry. Where a close tag
names another section than the innermost, the error stays whatever follows, so the session takes
line after line and answers none.
-/

namespace Mustache

set_option autoImplicit false

namespace Tag

variable {delimiters : Delimiters}

/-- A tag that cannot be read is no open section. -/
theorem cause_scanBare {cursor : Cursor} {failure : Failure}
    (read : scanBare delimiters cursor = .error failure) (name : String) :
    failure.cause ≠ .unclosedSection name := by
  unfold scanBare scanInside at read
  dsimp only at read
  split at read
  · cases read
    exact ParseCause.noConfusion
  · split at read
    · cases read
      exact ParseCause.noConfusion
    · split at read
      · cases read
        exact ParseCause.noConfusion
      · split at read
        · cases read
          exact ParseCause.noConfusion
        · split at read <;> cases read

end Tag

namespace Tagging

/-- The sections that the tags leave open, each a name and the place of its tag, innermost first, or
the first close tag that does not name the innermost. -/
def openAfter (sections : List (List Char × Position)) (tags : List Tag) :
    Except Failure (List (List Char × Position)) :=
  match tags with
  | [] => .ok sections
  | tag :: rest =>
    match tag.kind with
    | .openSection _ => openAfter ((tag.content, tag.position) :: sections) rest
    | .closeSection =>
      match sections with
      | [] => .error ⟨.closingUnopened tag.name, tag.position⟩
      | (name, position) :: outer =>
        if name = tag.content then openAfter outer rest
        else .error ⟨.unclosedSection (String.ofList name), position⟩
    | _ => openAfter sections rest

section

variable (sections outer : List (List Char × Position)) (tags : List Tag) {tag : Tag}

theorem openAfter_leaf {node : Node} (known : tag.node? = some node) :
    openAfter sections (tag :: tags) = openAfter sections tags := by
  unfold Tag.node? at known
  cases kind : tag.kind <;> simp_all [openAfter]

theorem openAfter_open {inverted : Bool} (opens : tag.kind = .openSection inverted) :
    openAfter sections (tag :: tags) =
      openAfter ((tag.content, tag.position) :: sections) tags := by
  simp [openAfter, opens]

theorem openAfter_close_nil (closes : tag.kind = .closeSection) :
    openAfter [] (tag :: tags) = .error ⟨.closingUnopened tag.name, tag.position⟩ := by
  simp [openAfter, closes]

theorem openAfter_close_cons (closes : tag.kind = .closeSection) (name : List Char)
    (position : Position) : openAfter ((name, position) :: outer) (tag :: tags) =
      if name = tag.content then openAfter outer tags
      else .error ⟨.unclosedSection (String.ofList name), position⟩ := by
  simp [openAfter, closes]

end

theorem openAfter_append (sections : List (List Char × Position)) (tags more : List Tag) :
    openAfter sections (tags ++ more) =
      (openAfter sections tags).bind fun inner => openAfter inner more := by
  induction tags generalizing sections with
  | nil => rfl
  | cons tag tags ih =>
    rw [List.cons_append]
    rcases TreeBuilder.exists_node_or tag with ⟨node, known⟩ | ⟨inverted, opens⟩ | closes
    · rw [openAfter_leaf _ _ known, openAfter_leaf _ _ known, ih]
    · rw [openAfter_open _ _ opens, openAfter_open _ _ opens, ih]
    · cases sections with
      | nil =>
        rw [openAfter_close_nil _ closes, openAfter_close_nil _ closes]
        rfl
      | cons entry outer =>
        obtain ⟨name, position⟩ := entry
        rw [openAfter_close_cons _ _ closes, openAfter_close_cons _ _ closes]
        split
        · exact ih outer
        · rfl

/-- The verdict on a row of tags is that on its end, with the sections open there. -/
theorem verdictFrom_append (failure : Option Failure) (sections : List (List Char × Position))
    (tags more : List Tag) :
    verdictFrom failure sections (tags ++ more) =
      match openAfter sections tags with
      | .error violation => some violation
      | .ok inner => verdictFrom failure inner more := by
  induction tags generalizing sections with
  | nil => rfl
  | cons tag tags ih =>
    rw [List.cons_append]
    rcases TreeBuilder.exists_node_or tag with ⟨node, known⟩ | ⟨inverted, opens⟩ | closes
    · rw [verdictFrom_leaf _ _ _ known, openAfter_leaf _ _ known, ih]
    · rw [verdictFrom_open _ _ _ opens, openAfter_open _ _ opens, ih]
    · cases sections with
      | nil => rw [verdictFrom_close_nil _ _ closes, openAfter_close_nil _ closes]
      | cons entry outer =>
        obtain ⟨name, position⟩ := entry
        rw [verdictFrom_close_cons _ _ _ closes, openAfter_close_cons _ _ closes]
        split
        · exact ih outer
        · rfl

/-- What is open is the name of an open tag. -/
theorem forall_openAfter (holds : List Char → Prop) {sections inner : List (List Char × Position)}
    {tags : List Tag} (around : ∀ entry ∈ sections, holds entry.1)
    (met : ∀ tag ∈ tags, ∀ inverted, tag.kind = .openSection inverted → holds tag.content)
    (left : openAfter sections tags = .ok inner) : ∀ entry ∈ inner, holds entry.1 := by
  induction tags generalizing sections with
  | nil =>
    cases left
    exact around
  | cons tag tags ih =>
    have later : ∀ other ∈ tags, ∀ inverted, other.kind = .openSection inverted →
        holds other.content := fun other inside => met other (List.mem_cons_of_mem _ inside)
    rcases TreeBuilder.exists_node_or tag with ⟨node, known⟩ | ⟨inverted, opens⟩ | closes
    · rw [openAfter_leaf _ _ known] at left
      exact ih around later left
    · rw [openAfter_open _ _ opens] at left
      apply ih _ later left
      exact List.forall_mem_cons.2 ⟨met tag List.mem_cons_self inverted opens, around⟩
    · cases sections with
      | nil =>
        rw [openAfter_close_nil _ closes] at left
        cases left
      | cons entry outer =>
        obtain ⟨name, position⟩ := entry
        rw [openAfter_close_cons _ _ closes] at left
        split at left
        · exact ih (List.forall_mem_cons.1 around).2 later left
        · cases left

variable {delimiters : Delimiters}

theorem cause_scan {cursor : Cursor} {failure : Failure}
    (failed : (scan delimiters cursor).failure = some failure) (name : String) :
    failure.cause ≠ .unclosedSection name := by
  fun_induction scan delimiters cursor with
  | case1 delimiters cursor absent => cases failed
  | case2 delimiters cursor gap found cut violation read =>
    cases failed
    exact Tag.cause_scanBare read name
  | case3 delimiters cursor gap found cut tag next read ih =>
    rw [failure_cons] at failed
    exact ih failed

/-- An open tag has a name. -/
theorem name_of_open {cursor : Cursor} {tag : Tag} (inside : tag ∈ (scan delimiters cursor).tags)
    {inverted : Bool} (opens : tag.kind = .openSection inverted) : Text.Name tag.content := by
  fun_induction scan delimiters cursor with
  | case1 delimiters cursor absent => cases inside
  | case2 delimiters cursor gap found cut failure read => cases inside
  | case3 delimiters cursor gap found cut first next read ih =>
    rw [tags_cons] at inside
    rcases List.mem_cons.1 inside with rfl | later
    · obtain ⟨rest, rfl, -⟩ := until?_inv cut
      obtain ⟨parts, kind, fits, known, rfl, -, -⟩ := Tag.scanBare_inv read
      change kind = _ at opens
      rw [opens] at known
      exact ⟨fits.content_ne, (fits.name (TagKind.bound_of_hasName known rfl)).1⟩
    · exact ih later

theorem worded_inForce (worded : delimiters.Worded) (cursor : Cursor) :
    (inForce delimiters (scan delimiters cursor).tags).Worded := by
  fun_induction scan delimiters cursor with
  | case1 delimiters cursor absent => exact worded
  | case2 delimiters cursor gap found cut failure read => exact worded
  | case3 delimiters cursor gap found cut first next read ih =>
    obtain ⟨rest, rfl, -⟩ := until?_inv cut
    obtain ⟨parts, kind, fits, known, rfl, -, -⟩ := Tag.scanBare_inv read
    exact ih (TagParts.worded_delimitersAfter worded known _)

/-- The first occurrence stays the first whatever follows the text. -/
theorem until?_append {literal gap : List Char} {cursor found : Cursor}
    (cut : cursor.until? literal = some (gap, found)) (more : List Char) :
    Cursor.until? ⟨cursor.position, cursor.rest ++ more⟩ literal =
      some (gap, ⟨found.position, found.rest ++ more⟩) := by
  obtain ⟨⟨before, after⟩, split, pair⟩ := Option.map_eq_some_iff.1 cut
  cases pair
  have nonempty : literal ≠ [] := by
    rintro rfl
    cases split
  obtain ⟨whole, begins, absent⟩ := (Text.splitAt?_eq_some_iff nonempty).1 split
  unfold Cursor.until?
  rw [whole, List.append_assoc, (Text.splitAt?_eq_some_iff nonempty).2
    ⟨rfl, begins.trans (List.prefix_append _ _), absent.extend begins more⟩]
  rfl

/-- The tags of a text stay as they are when a line follows it. If all of the text was read, the
line is read under the delimiters then in force. -/
theorem scan_line_append (plain : delimiters.Plain) (cursor : Cursor) (line : List Char) :
    (scan delimiters cursor).tags <+:
        (scan delimiters ⟨cursor.position, cursor.rest ++ '\n' :: line⟩).tags ∧
      ((scan delimiters cursor).failure = none → ∃ place,
        (scan delimiters ⟨cursor.position, cursor.rest ++ '\n' :: line⟩).tags =
          (scan delimiters cursor).tags ++
            (scan (inForce delimiters (scan delimiters cursor).tags) ⟨place, line⟩).tags ∧
        (scan delimiters ⟨cursor.position, cursor.rest ++ '\n' :: line⟩).failure =
          (scan (inForce delimiters (scan delimiters cursor).tags) ⟨place, line⟩).failure) := by
  fun_induction scan delimiters cursor with
  | case1 delimiters cursor absent =>
    have outside : '\n' ∉ delimiters.mark := by
      intro newline
      cases plain.mark '\n' newline
    have absentLine (nonempty : delimiters.mark ≠ []) :
        Text.AbsentBefore delimiters.mark (cursor.rest ++ ['\n']) line :=
      Text.AbsentBefore.append_cons outside nonempty
        ((Text.splitAt?_eq_none_iff nonempty).1 (Option.map_eq_none_iff.1 absent))
        (Text.absentBefore_nil _ _)
    have joined : cursor.rest ++ '\n' :: line = (cursor.rest ++ ['\n']) ++ line := by simp
    rw [joined, scan_append _ _ _ absentLine]
    exact ⟨List.nil_prefix, fun _ => ⟨_, tags_prepend _ _, failure_prepend _ _⟩⟩
  | case2 delimiters cursor gap found cut failure read =>
    refine ⟨List.nil_prefix, ?_⟩
    intro impossible
    cases impossible
  | case3 delimiters cursor gap found cut tag next read ih =>
    obtain ⟨rest, rfl, -⟩ := until?_inv cut
    have cutLine := until?_append cut ('\n' :: line)
    rw [List.append_assoc] at cutLine
    have readLine := Tag.scanBare_append read ('\n' :: line)
    obtain ⟨parts, kind, -, known, same, -, -⟩ := Tag.scanBare_inv read
    have plainAfter : tag.delimitersAfter.Plain := by
      rw [same]
      exact TagParts.plain_delimitersAfter plain known _
    obtain ⟨begins, continues⟩ := ih plainAfter
    rw [scan_of_ok cutLine readLine]
    simp only [tags_cons, failure_cons, List.cons_append, List.cons_prefix_cons, true_and]
    refine ⟨begins, ?_⟩
    intro none
    obtain ⟨place, tags, failure⟩ := continues none
    exact ⟨place, congrArg (tag :: ·) tags, failure⟩

theorem ofText_line_append (plain : delimiters.Plain) (text line : List Char) :
    (ofText delimiters text).tags <+: (ofText delimiters (text ++ '\n' :: line)).tags ∧
      ((ofText delimiters text).failure = none → ∃ place,
        (ofText delimiters (text ++ '\n' :: line)).tags = (ofText delimiters text).tags ++
            (scan (inForce delimiters (ofText delimiters text).tags) ⟨place, line⟩).tags ∧
        (ofText delimiters (text ++ '\n' :: line)).failure =
          (scan (inForce delimiters (ofText delimiters text).tags) ⟨place, line⟩).failure) :=
  scan_line_append plain (Cursor.ofText text) line

/-- A close tag with a space and the sigil before its close delimiter, whatever that begins with. -/
def closer (delimiters : Delimiters) (name : List Char) : List Char :=
  delimiters.mark ++ (TagParts.inner ⟨some .slash, [], name, [' '], ['/']⟩ ++
    delimiters.closing.toList)

/-- Close tags in order close the sections that are open. -/
theorem verdictFrom_closers (worded : delimiters.Worded)
    {sections : List (List Char × Position)} (named : ∀ entry ∈ sections, Text.Name entry.1)
    (position : Position) :
    verdictFrom (scan delimiters ⟨position, sections.flatMap fun entry =>
        closer delimiters entry.1⟩).failure sections
      (scan delimiters ⟨position, sections.flatMap fun entry => closer delimiters entry.1⟩).tags =
        none := by
  induction sections generalizing position with
  | nil =>
    rw [List.flatMap_nil, scan_of_ended rfl]
    rfl
  | cons entry sections ih =>
    obtain ⟨name, opened⟩ := entry
    obtain ⟨here, later⟩ := List.forall_mem_cons.1 named
    have fits : TagParts.Fits ⟨some .slash, [], name, [' '], ['/']⟩ delimiters.closing.toList :=
      TagParts.fits_of_name rfl here (by simp) worded.closing (Text.stopsAt_cons.2 rfl)
        (by simp [Text.isTagSpace]) (Text.stopsAt_cons.2 rfl) (.inr ⟨.slash, rfl, rfl⟩)
    have cut := until?_mark worded.plain worded.opening position
      (show ∀ character ∈ [], Text.isSpace character = true by simp)
      (TagParts.inner ⟨some .slash, [], name, [' '], ['/']⟩ ++ delimiters.closing.toList ++
        sections.flatMap fun entry => closer delimiters entry.1)
    have read := Tag.scanBare_eq fits rfl position
      (sections.flatMap fun entry => closer delimiters entry.1)
    rw [List.flatMap_cons, closer, List.append_assoc]
    rw [List.nil_append] at cut
    rw [scan_of_ok cut read, tags_cons, failure_cons, verdictFrom_close_cons _ _ _ rfl]
    exact (if_pos rfl).trans (ih later _)

end Tagging

namespace Command.Session

open Tagging

/-- The tags of an entry, which begins under the standard delimiters. -/
def tagsOf (entry : String) : List Tag := (Tagging.ofText .standard entry.toList).tags

theorem isComplete_of_parse {entry : String} {tree : Node}
    (parsed : parse .standard entry = .ok tree) : isComplete entry = true := by
  unfold isComplete
  rw [parsed]

/-- An entry is incomplete if its first violation is an open section. -/
theorem isComplete_eq_false_iff (entry : String) : isComplete entry = false ↔
    ∃ name position, (Tagging.ofText .standard entry.toList).verdict =
      some ⟨.unclosedSection name, position⟩ := by
  obtain ⟨failed, parsed⟩ := parse_of_verdict Delimiters.standard_plain entry
  unfold isComplete
  cases known : (Tagging.ofText .standard entry.toList).verdict with
  | none =>
    obtain ⟨tree, ok⟩ := parsed known
    rw [ok]
    simp
  | some failure =>
    obtain ⟨cause, position⟩ := failure
    rw [failed _ known]
    cases cause <;> simp [Failure.report]

/-- A close tag names another section than the innermost. -/
def Stuck (entry : String) : Prop :=
  ∃ name position, openAfter [] (tagsOf entry) = .error ⟨.unclosedSection name, position⟩

theorem verdict_eq (entry : String) : (Tagging.ofText .standard entry.toList).verdict =
    match openAfter [] (tagsOf entry) with
    | .error violation => some violation
    | .ok inner => verdictFrom (Tagging.ofText .standard entry.toList).failure inner [] := by
  rw [← verdictFrom_append, List.append_nil]
  rfl

theorem Stuck.incomplete {entry : String} (stuck : Stuck entry) : isComplete entry = false := by
  obtain ⟨name, position, broken⟩ := stuck
  rw [isComplete_eq_false_iff, verdict_eq, broken]
  exact ⟨name, position, rfl⟩

theorem toList_line (entry line : String) :
    (entry ++ "\n" ++ line).toList = entry.toList ++ '\n' :: line.toList := by
  simp

/-- No line takes the violation back. -/
theorem Stuck.line {entry : String} (stuck : Stuck entry) (line : String) :
    Stuck (entry ++ "\n" ++ line) := by
  obtain ⟨name, position, broken⟩ := stuck
  obtain ⟨⟨more, longer⟩, -⟩ :=
    ofText_line_append Delimiters.standard_plain entry.toList line.toList
  refine ⟨name, position, ?_⟩
  unfold tagsOf at *
  rw [toList_line, ← longer, openAfter_append, broken]
  rfl

/-- A session that is stuck takes all lines and prints nothing before the input ends. -/
theorem Stuck.feedAll {entry : String} (stuck : Stuck entry) (job : Job) (lines : List String) :
    (Session.mk job entry).feedAll lines = .ok ⟨endOfInput, ""⟩ := by
  induction lines generalizing entry with
  | nil => rfl
  | cons line lines ih =>
    have filled : entry.isEmpty = false := by
      cases known : entry.isEmpty with
      | false => rfl
      | true =>
        obtain ⟨name, position, broken⟩ := stuck
        rw [String.isEmpty_iff] at known
        rw [known] at broken
        unfold tagsOf Tagging.ofText at broken
        rw [scan_of_ended rfl] at broken
        cases broken
    have fed : (Session.mk job entry).feed line =
        .ok ⟨⟨"", ""⟩, some ⟨job, entry ++ "\n" ++ line⟩⟩ := by
      unfold feed gather extend
      dsimp only
      rw [filled, if_neg Bool.false_ne_true, if_neg Bool.false_ne_true,
        (stuck.line line).incomplete]
      rfl
    unfold Session.feedAll
    rw [fed]
    dsimp only
    rw [ih (stuck.line line)]
    rfl

/-- Close tags for the open sections finish an entry. -/
theorem exists_completion {entry : String} {sections : List (List Char × Position)}
    (incomplete : isComplete entry = false) (left : openAfter [] (tagsOf entry) = .ok sections) :
    ∃ more tree, parse .standard (entry ++ "\n" ++ more) = .ok tree := by
  obtain ⟨name, position, verdict⟩ := (isComplete_eq_false_iff entry).1 incomplete
  have read : (Tagging.ofText .standard entry.toList).failure = none := by
    rw [verdict_eq, left] at verdict
    cases known : (Tagging.ofText .standard entry.toList).failure with
    | none => rfl
    | some failure =>
      have unread := cause_scan known name
      rw [known] at verdict
      cases sections <;> cases verdict <;> exact absurd rfl unread
  have named := forall_openAfter Text.Name (by simp)
    (fun tag inside inverted opens => name_of_open inside opens) left
  have worded := worded_inForce Delimiters.standard_worded (Cursor.ofText entry.toList)
  obtain ⟨-, continues⟩ := ofText_line_append Delimiters.standard_plain entry.toList
    (sections.flatMap fun opened => closer (inForce .standard (tagsOf entry)) opened.1)
  obtain ⟨place, tags, failure⟩ := continues read
  refine ⟨String.ofList (sections.flatMap fun opened =>
    closer (inForce .standard (tagsOf entry)) opened.1), ?_⟩
  rw [exists_parse_iff_verdict Delimiters.standard_plain, toList_line, String.toList_ofList]
  unfold Tagging.verdict
  rw [tags, failure, verdictFrom_append]
  change (match openAfter [] (tagsOf entry) with
    | .error violation => some violation
    | .ok inner => verdictFrom _ inner _) = none
  rw [left]
  exact verdictFrom_closers worded named place

/-- An entry that is incomplete can be finished, unless a close tag in it names another section
than the innermost; then the session waits whatever it is given. -/
theorem completion_or_stuck (entry : String) (incomplete : isComplete entry = false) :
    (¬ Stuck entry → ∃ more, isComplete (entry ++ "\n" ++ more) = true ∧
      ∃ tree, parse .standard (entry ++ "\n" ++ more) = .ok tree) ∧
    (Stuck entry → (∀ more, isComplete (entry ++ "\n" ++ more) = false) ∧
      ∀ job lines, (Session.mk job entry).feedAll lines = .ok ⟨endOfInput, ""⟩) := by
  constructor
  · intro free
    cases left : openAfter [] (tagsOf entry) with
    | ok sections =>
      obtain ⟨more, tree, parsed⟩ := exists_completion incomplete left
      exact ⟨more, isComplete_of_parse parsed, tree, parsed⟩
    | error violation =>
      obtain ⟨name, position, verdict⟩ := (isComplete_eq_false_iff entry).1 incomplete
      rw [verdict_eq, left] at verdict
      cases verdict
      exact absurd ⟨name, position, left⟩ free
  · intro stuck
    exact ⟨fun more => (stuck.line more).incomplete, fun job lines => stuck.feedAll job lines⟩

theorem stuck_crossed : Stuck "\x7b\x7b#a\x7d\x7d\x7b\x7b/b\x7d\x7d" := by
  refine ⟨"a", Position.start, ?_⟩
  rw [tagsOf, (Lexing.tags_ofText Delimiters.standard_plain _).1]
  cbv

theorem openAfter_opened : openAfter [] (tagsOf "\x7b\x7b#a\x7d\x7d") =
    .ok [(['a'], Position.start)] := by
  rw [tagsOf, (Lexing.tags_ofText Delimiters.standard_plain _).1]
  cbv

theorem completion_opened :
    isComplete "\x7b\x7b#a\x7d\x7d" = false ∧
      (∃ more, isComplete ("\x7b\x7b#a\x7d\x7d" ++ "\n" ++ more) = true) ∧
      ∀ job lines, (Session.mk job "\x7b\x7b#a\x7d\x7d\x7b\x7b/b\x7d\x7d").feedAll lines =
        .ok ⟨endOfInput, ""⟩ := by
  have opened : isComplete "\x7b\x7b#a\x7d\x7d" = false := by cbv
  have free : ¬ Stuck "\x7b\x7b#a\x7d\x7d" := by
    rintro ⟨name, position, broken⟩
    rw [openAfter_opened] at broken
    cases broken
  obtain ⟨more, finished, -⟩ := (completion_or_stuck _ opened).1 free
  exact ⟨opened, ⟨more, finished⟩,
    ((completion_or_stuck _ stuck_crossed.incomplete).2 stuck_crossed).2⟩

/-- Of `a` and `b` neither can be closed any more, and the entry counts as open for ever. -/
theorem crossed_never_complete :
    isComplete "\x7b\x7b#a\x7d\x7d\x7b\x7b/b\x7d\x7d" = false ∧
      ∀ more,
        isComplete ("\x7b\x7b#a\x7d\x7d\x7b\x7b/b\x7d\x7d" ++ "\n" ++ more) = false :=
  ⟨stuck_crossed.incomplete, fun more => (stuck_crossed.line more).incomplete⟩

end Command.Session

end Mustache
