import Mathlib
import Mustache.Partials
import Mustache.Proofs.BlankLines
import Mustache.Proofs.CompiledRun
import Mustache.Proofs.FailurePositions
import Mustache.Proofs.Restoring

/-!
# Indented partials

Indenting a text puts the indentation in front of every line and changes nothing else, so indenting
what is indented already is indenting once, by both indentations. A partial tag writes what the
same tag without indentation writes, indented.
-/

namespace Mustache

set_option autoImplicit false

namespace Text

/-- The lines of a text, each with its line break. What stands behind the last line break is a line
unless it is empty. -/
def lines : List Char → List (List Char)
  | [] => []
  | character :: rest =>
    if character = '\n' then ['\n'] :: lines rest
    else
      match lines rest with
      | [] => [[character]]
      | line :: others => (character :: line) :: others

/-- A text is empty, or it is one line without a break, or it has a first line and a rest. -/
theorem byLines {motive : List Char → Prop} (nil : motive [])
    (last : ∀ line, line ≠ [] → '\n' ∉ line → motive line)
    (broken : ∀ line rest, '\n' ∉ line → motive rest → motive (line ++ '\n' :: rest))
    (text : List Char) : motive text := by
  induction text using byBreaks '\n' with
  | last line unbroken =>
    by_cases empty : line = []
    · rw [empty]
      exact nil
    · exact last line empty unbroken
  | broken line rest unbroken ih => exact broken line rest unbroken ih

variable {line rest text indentation : List Char}

theorem lines_of_unbroken (filled : line ≠ []) (unbroken : '\n' ∉ line) : lines line = [line] := by
  induction line with
  | nil => exact absurd rfl filled
  | cons character line ih =>
    rw [List.mem_cons, not_or] at unbroken
    rw [lines, if_neg (Ne.symm unbroken.1)]
    by_cases empty : line = []
    · rw [empty, lines]
    · rw [ih empty unbroken.2]

theorem lines_broken (unbroken : '\n' ∉ line) (rest : List Char) :
    lines (line ++ '\n' :: rest) = (line ++ ['\n']) :: lines rest := by
  induction line with
  | nil => simp [lines]
  | cons character line ih =>
    rw [List.mem_cons, not_or] at unbroken
    rw [List.cons_append, lines, if_neg (Ne.symm unbroken.1), ih unbroken.2]
    rfl

theorem flatten_lines (text : List Char) : (lines text).flatten = text := by
  induction text using byLines with
  | nil => rfl
  | last line filled unbroken => simp [lines_of_unbroken filled unbroken]
  | broken line rest unbroken ih => simp [lines_broken unbroken, ih]

/-- Lines end where a text ends with a line break. -/
theorem lines_append (ends : EndsLine text) (rest : List Char) :
    lines (text ++ rest) = lines text ++ lines rest := by
  induction text using byLines with
  | nil => rfl
  | last line filled unbroken =>
    rcases ends with empty | breaks
    · exact absurd empty filled
    · exact absurd (List.mem_of_getLast? breaks) unbroken
  | broken line behind unbroken ih =>
    have endsBehind : EndsLine behind := by
      by_cases empty : behind = []
      · exact .inl empty
      · rcases ends with impossible | breaks
        · simp at impossible
        · right
          rwa [List.getLast?_append_of_ne_nil _ (List.cons_ne_nil _ _),
            List.getLast?_cons_of_ne_nil empty] at breaks
    rw [List.append_assoc, List.cons_append, lines_broken unbroken, lines_broken unbroken,
      ih endsBehind, List.cons_append]

/-- Lines that are indented already, the first one apart. -/
def indentBehind (indentation text : List Char) : List Char :=
  text.foldr (indentBefore indentation) []

theorem indentBehind_cons (indentation : List Char) (character : Char) (rest : List Char) :
    indentBehind indentation (character :: rest) =
      character :: if character = '\n' then indentLines indentation rest
        else indentBehind indentation rest := by
  change indentBefore indentation character (indentBehind indentation rest) =
    character :: if character = '\n' then
      (if (indentBehind indentation rest).isEmpty then []
        else indentation ++ indentBehind indentation rest)
      else indentBehind indentation rest
  generalize indentBehind indentation rest = behind
  unfold indentBefore
  by_cases breaks : character = '\n'
  · cases behind <;> simp [breaks]
  · simp [breaks]

theorem indentLines_of_ne_nil (filled : text ≠ []) :
    indentLines indentation text = indentation ++ indentBehind indentation text := by
  cases text with
  | nil => exact absurd rfl filled
  | cons character rest =>
    have nonempty := indentBehind_cons indentation character rest
    unfold indentLines
    change (if (indentBehind indentation (character :: rest)).isEmpty then [] else
      indentation ++ indentBehind indentation (character :: rest)) = _
    rw [nonempty]
    rfl

theorem indentBehind_of_unbroken (unbroken : '\n' ∉ line) :
    indentBehind indentation line = line := by
  induction line with
  | nil => rfl
  | cons character line ih =>
    rw [List.mem_cons, not_or] at unbroken
    rw [indentBehind_cons, if_neg (Ne.symm unbroken.1), ih unbroken.2]

theorem indentBehind_broken (unbroken : '\n' ∉ line) (rest : List Char) :
    indentBehind indentation (line ++ '\n' :: rest) =
      line ++ '\n' :: indentLines indentation rest := by
  induction line with
  | nil => simp [indentBehind_cons]
  | cons character line ih =>
    rw [List.mem_cons, not_or] at unbroken
    rw [List.cons_append, indentBehind_cons, if_neg (Ne.symm unbroken.1), ih unbroken.2]
    rfl

theorem indentLines_of_unbroken (filled : line ≠ []) (unbroken : '\n' ∉ line) :
    indentLines indentation line = indentation ++ line := by
  rw [indentLines_of_ne_nil filled, indentBehind_of_unbroken unbroken]

theorem indentLines_broken (unbroken : '\n' ∉ line) (rest : List Char) :
    indentLines indentation (line ++ '\n' :: rest) =
      (indentation ++ line) ++ '\n' :: indentLines indentation rest := by
  rw [indentLines_of_ne_nil (by simp), indentBehind_broken unbroken, List.append_assoc]

/-- The indentation stands in front of every line. -/
theorem indentLines_eq (indentation text : List Char) :
    indentLines indentation text = ((lines text).map (indentation ++ ·)).flatten := by
  induction text using byLines with
  | nil => rfl
  | last line filled unbroken =>
    rw [indentLines_of_unbroken filled unbroken, lines_of_unbroken filled unbroken]
    simp
  | broken line rest unbroken ih =>
    rw [indentLines_broken unbroken, ih, lines_broken unbroken]
    simp

/-- The lines of an indented text are the lines of the text, each behind the indentation. -/
theorem lines_indentLines (unbroken : '\n' ∉ indentation) (text : List Char) :
    lines (indentLines indentation text) = (lines text).map (indentation ++ ·) := by
  have kept {line : List Char} (whole : '\n' ∉ line) : '\n' ∉ indentation ++ line := by
    simp [unbroken, whole]
  induction text using byLines with
  | nil => rfl
  | last line filled whole =>
    rw [indentLines_of_unbroken filled whole, lines_of_unbroken (by simp [filled]) (kept whole),
      lines_of_unbroken filled whole, List.map_singleton]
  | broken line rest whole ih =>
    rw [indentLines_broken whole, lines_broken (kept whole), ih, lines_broken whole, List.map_cons,
      List.append_assoc]

theorem indentLines_nil (text : List Char) : indentLines [] text = text := by
  rw [indentLines_eq]
  simp [flatten_lines]

/-- Indenting twice is indenting once, with the later indentation in front. -/
theorem indentLines_indentLines {first : List Char} (unbroken : '\n' ∉ first)
    (second text : List Char) :
    indentLines second (indentLines first text) = indentLines (second ++ first) text := by
  rw [indentLines_eq, lines_indentLines unbroken, indentLines_eq, List.map_map]
  congr 2
  funext line
  simp

/-- Behind a line break, the rest is indented on its own. -/
theorem indentLines_append (ends : EndsLine text) (rest : List Char) :
    indentLines indentation (text ++ rest) =
      indentLines indentation text ++ indentLines indentation rest := by
  simp only [indentLines_eq, lines_append ends, List.map_append, List.flatten_append]

/-- Without the indentation, the lines are those of the text. -/
theorem flatten_drop_lines (unbroken : '\n' ∉ indentation) (text : List Char) :
    ((lines (indentLines indentation text)).map (List.drop indentation.length)).flatten = text := by
  have dropped : List.drop indentation.length ∘ (indentation ++ ·) = id := by
    funext line
    simp
  rw [lines_indentLines unbroken, List.map_map, dropped, List.map_id, flatten_lines]

theorem endsLine_indentLines (ends : EndsLine text) : EndsLine (indentLines indentation text) := by
  rcases ends with empty | breaks
  · rw [empty]
    exact .inl rfl
  · obtain ⟨front, same⟩ := List.getLast?_eq_some_iff.1 breaks
    obtain ⟨before, current, split, ends, unbroken⟩ := exists_lines front
    right
    rw [same, split, List.append_assoc, indentLines_append ends, indentLines_broken unbroken]
    simp [indentLines]

theorem indent_empty (indentation : String) : indent "" indentation = "" := rfl

theorem indent_of_empty (text : String) : indent text "" = text := by
  unfold indent
  rw [String.toList_empty, indentLines_nil, String.ofList_toList]

theorem indent_indent {first : String} (unbroken : '\n' ∉ first.toList) (second text : String) :
    indent (indent text first) second = indent text (second ++ first) := by
  unfold indent
  rw [String.toList_ofList, String.toList_append, indentLines_indentLines unbroken]

/-- Lines that are indented already, between other lines, end up behind both indentations. -/
theorem indent_between {first : String} (unbroken : '\n' ∉ first.toList)
    {before inner after : String} (begins : EndsLine before.toList)
    (ends : EndsLine inner.toList ∨ after = "") (second : String) :
    indent (before ++ indent inner first ++ after) second =
      indent before second ++ indent inner (second ++ first) ++ indent after second := by
  have parts : indentLines second.toList (indentLines first.toList inner.toList ++ after.toList) =
      indentLines second.toList (indentLines first.toList inner.toList) ++
        indentLines second.toList after.toList := by
    rcases ends with whole | nothing
    · exact indentLines_append (endsLine_indentLines whole) _
    · rw [nothing]
      simp [indentLines]
  unfold indent
  simp only [String.toList_append, String.toList_ofList, List.append_assoc]
  rw [indentLines_append begins, parts, indentLines_indentLines unbroken]
  simp only [String.ofList_append, String.append_assoc]

end Text

@[simp]
theorem Output.pushTrusted_empty (output : Output) : output.pushTrusted "" = output := by
  simp [pushTrusted]

namespace Run

variable {State : Type}

/-- What a run writes into an output of its own is appended, indented, if the run does not stop. -/
theorem indented_apply (indentation : String) (body : Run State Unit) (state : RunState State) :
    indented indentation body state =
      ((body state.fresh).1, { (body state.fresh).2 with
        output := if (body state.fresh).1.isOk then state.output.pushTrusted
            (Text.indent (body state.fresh).2.output.text indentation)
          else state.output }) := by
  have entered : body { state with output := Output.empty state.output.escaping } =
      body state.fresh := rfl
  unfold indented
  dsimp only
  rw [entered]
  cases body state.fresh with
  | mk outcome after => cases outcome <;> rfl

/-- Partials inside one another are indented by all their indentations. -/
theorem indented_indented {first : String} (unbroken : '\n' ∉ first.toList) (second : String)
    (body : Run State Unit) :
    indented second (indented first body) = indented (second ++ first) body := by
  funext state
  have again : state.fresh.fresh = state.fresh := rfl
  rw [indented_apply, indented_apply, indented_apply, again]
  cases (body state.fresh).1 with
  | error reason => rfl
  | ok result =>
    have succeeds : (Except.ok result : Except Stop Unit).isOk = true := rfl
    dsimp only [RunState.fresh, Output.pushTrusted, Output.empty]
    simp only [if_pos succeeds, String.empty_append, Text.indent_indent unbroken]

/-- What comes of a run, beside what comes of the same run without indentation: it ends alike, and
where the other wrote something, it wrote that indented. -/
structure Shifts (indentation : String) (state : RunState State)
    (bare ran : Except Stop Unit × RunState State) : Prop where
  outcome : ran.1 = bare.1
  output : ∃ written, bare.2.output = state.output.pushTrusted written ∧
    (bare.1 = .ok () → ran.2 = { bare.2 with
      output := state.output.pushTrusted (Text.indent written indentation) })

theorem Shifts.silent (indentation : String) {state : RunState State}
    {ran : Except Stop Unit × RunState State} (kept : ran.2.output = state.output) :
    Shifts indentation state ran ran := by
  refine ⟨rfl, "", by rw [kept, Output.pushTrusted_empty], ?_⟩
  intro _
  rw [Text.indent_empty, Output.pushTrusted_empty, ← kept]

theorem Shifts.unindented {state : RunState State} {ran : Except Stop Unit × RunState State}
    {written : String} (appended : ran.2.output = state.output.pushTrusted written) :
    Shifts "" state ran ran := by
  refine ⟨rfl, written, appended, ?_⟩
  intro _
  rw [Text.indent_of_empty, ← appended]

variable [Host State]

theorem appends_execute (limit depth : Nat) (template : Code) (state : RunState State) :
    execute limit (limit - depth) (Frame.start template) state =
      ((execute limit (limit - depth) (Frame.start template) state.fresh).1,
        { (execute limit (limit - depth) (Frame.start template) state.fresh).2 with
          output := state.output.pushTrusted
            (execute limit (limit - depth) (Frame.start template) state.fresh).2.output.text }) :=
  (Monitor.restores_execute limit (limit - depth) (Frame.start template) depth limit rfl
    (Nat.sub_le _ _)).appends state

/-- The indented run of a template does what its run does, and indents what that writes. -/
theorem shifts_execute (limit depth : Nat) (template : Code) (indentation : String)
    (state : RunState State) :
    Shifts indentation state (execute limit (limit - depth) (Frame.start template) state)
      ((if indentation.isEmpty then execute limit (limit - depth) (Frame.start template)
        else indented indentation (execute limit (limit - depth) (Frame.start template))) state) := by
  have appends := appends_execute limit depth template state
  split
  · rename_i empty
    rw [String.isEmpty_iff] at empty
    rw [empty]
    apply Shifts.unindented
    rw [appends]
  · rw [indented_apply, appends]
    refine ⟨rfl, _, rfl, ?_⟩
    intro ended
    dsimp only at ended ⊢
    rw [ended]
    rfl

/-- A tag for a partial does what the tag without indentation does, and indents what that
writes. -/
theorem shifts_perform {bare tag : Code} {nameIndex emptyIndex otherIndex indentationIndex : Nat}
    {name indentation : String} (named : bare.constants[nameIndex]? = some name)
    (unindented : bare.constants[emptyIndex]? = some "")
    (namedAgain : tag.constants[otherIndex]? = some name)
    (indented : tag.constants[indentationIndex]? = some indentation)
    (limit depth : Nat) (state : RunState State) :
    Shifts indentation state
      (perform limit (limit - depth) bare (.partialTag nameIndex emptyIndex) state)
      (perform limit (limit - depth) tag (.partialTag otherIndex indentationIndex) state) := by
  rw [perform_partialTag named unindented, perform_partialTag namedAgain indented]
  cases level : limit - depth with
  | zero => exact Shifts.silent indentation rfl
  | succ below =>
    have deeper : below = limit - (depth + 1) := by omega
    simp only [bind_def, andThen, ask]
    cases (Host.partial? state.host name).1 with
    | error reason => exact Shifts.silent indentation rfl
    | ok found =>
      cases found with
      | none => exact Shifts.silent indentation rfl
      | some template =>
        have runs := shifts_execute limit (depth + 1) template indentation
          { state with host := (Host.partial? state.host name).2 }
        rw [← deeper] at runs
        exact ⟨runs.outcome, runs.output⟩

end Run

/-- The instruction is a tag for the partial of a name, with an indentation. -/
def Code.Includes (code : Code) (name indentation : String) (instruction : Instruction) : Prop :=
  ∃ nameIndex indentationIndex, instruction = .partialTag nameIndex indentationIndex ∧
    code.constants[nameIndex]? = some name ∧ code.constants[indentationIndex]? = some indentation

/-- A partial tag with an indentation ends as the same tag without one, in the same state, and where
that has written a text, it has written its lines, each behind the indentation; taken off every
line, the indentation leaves the text. Indentations compose: to indent what is indented is to indent
by both, for texts, for a part between other lines, and for partials inside one another. -/
theorem partialTag_indents {State : Type} [Host State] {bareCode code : Code}
    {bareTag tag : Instruction} {name indentation : String}
    (bare : bareCode.Includes name "" bareTag) (includes : code.Includes name indentation tag)
    (unbroken : '\n' ∉ indentation.toList) :
    (∀ (limit depth : Nat) (state : RunState State),
      let ran := Run.perform limit (limit - depth) bareCode bareTag state
      let shifted := Run.perform limit (limit - depth) code tag state
      shifted.1 = ran.1 ∧
      ∃ written, ran.2.output = state.output.pushTrusted written ∧
        (ran.1 = .ok () → ∃ indented,
          shifted.2 = { ran.2 with output := state.output.pushTrusted indented } ∧
          Text.lines indented.toList =
            (Text.lines written.toList).map (indentation.toList ++ ·) ∧
          ((Text.lines indented.toList).map (List.drop indentation.toList.length)).flatten =
            written.toList ∧
          (written = "" → indented = ""))) ∧
    ∀ outer : String,
      (∀ text, Text.indent (Text.indent text indentation) outer =
        Text.indent text (outer ++ indentation)) ∧
      (∀ before inner after : String, Text.EndsLine before.toList →
        (Text.EndsLine inner.toList ∨ after = "") →
        Text.indent (before ++ Text.indent inner indentation ++ after) outer =
          Text.indent before outer ++ Text.indent inner (outer ++ indentation) ++
            Text.indent after outer) ∧
      ∀ body : Run State Unit,
        Run.indented outer (Run.indented indentation body) =
          Run.indented (outer ++ indentation) body := by
  obtain ⟨nameIndex, emptyIndex, rfl, named, unindented⟩ := bare
  obtain ⟨otherIndex, indentationIndex, rfl, namedAgain, indented⟩ := includes
  constructor
  · intro limit depth state ran shifted
    obtain ⟨outcome, written, appended, shifts⟩ :=
      Run.shifts_perform named unindented namedAgain indented limit depth state
    refine ⟨outcome, written, appended, ?_⟩
    intro ended
    refine ⟨Text.indent written indentation, shifts ended, ?_, ?_, ?_⟩
    · rw [Text.indent, String.toList_ofList, Text.lines_indentLines unbroken]
    · rw [Text.indent, String.toList_ofList, Text.flatten_drop_lines unbroken]
    · intro nothing
      rw [nothing, Text.indent_empty]
  · intro outer
    refine ⟨?_, ?_, ?_⟩
    · exact Text.indent_indent unbroken outer
    · intro before inner after begins ends
      exact Text.indent_between unbroken begins ends outer
    · exact Run.indented_indented unbroken outer

namespace Partials

/-- A partial with an empty line, and one that indents it in turn. -/
def rows : Partials :=
  ofPairs [("row", "<\n\n>"), ("rows", "a\n  \x7b\x7b>row\x7d\x7d\nb\n")]

/-- Tags for the partial of rows, one as it is and one behind a tab. -/
def rowsCode : Code := ⟨"", #[], #["rows", "", "\t"], #[], #[], #[], #[]⟩

def rowsState : RunState Partials := ⟨⟨[.null]⟩, [], ⟨"&", .html⟩, rows⟩

theorem partialTag_indents_rows :
    let ran := Run.perform 2 2 rowsCode (.partialTag 0 1) rowsState
    let shifted := Run.perform 2 2 rowsCode (.partialTag 0 2) rowsState
    rowsCode.Includes "rows" "" (.partialTag 0 1) ∧
      rowsCode.Includes "rows" "\t" (.partialTag 0 2) ∧ '\n' ∉ "\t".toList ∧
      ran.1 = .ok () ∧ ran.2.output.text = "&a\n  <\n  \n  >b\n" ∧ shifted.1 = .ok () ∧
      ∃ indented, shifted.2.output.text = "&" ++ indented ∧
        Text.lines indented.toList = ["\ta\n".toList, "\t  <\n".toList, "\t  \n".toList,
          "\t  >b\n".toList] := by
  intro ran shifted
  have bare : rowsCode.Includes "rows" "" (.partialTag 0 1) := ⟨0, 1, rfl, rfl, rfl⟩
  have tag : rowsCode.Includes "rows" "\t" (.partialTag 0 2) := ⟨0, 2, rfl, rfl, rfl⟩
  have unbroken : '\n' ∉ "\t".toList := by decide
  have ended : (Run.perform 2 2 rowsCode (.partialTag 0 1) rowsState).1 = .ok () := by cbv
  have output : (Run.perform 2 2 rowsCode (.partialTag 0 1) rowsState).2.output.text =
      "&" ++ "a\n  <\n  \n  >b\n" := by cbv
  obtain ⟨same, written, appended, shifts⟩ :=
    (partialTag_indents bare tag unbroken).1 2 0 rowsState
  obtain ⟨indented, after, lines, -, -⟩ := shifts ended
  refine ⟨bare, tag, unbroken, ended, output.trans (by cbv), same.trans ended, indented, ?_, ?_⟩
  · exact congrArg (fun state => state.output.text) after
  · have text : "&" ++ written = "&" ++ "a\n  <\n  \n  >b\n" := by
      rw [← output]
      exact (congrArg Output.text appended).symm
    rw [lines, (String.append_right_inj "&").1 text]
    cbv

end Partials

end Mustache
