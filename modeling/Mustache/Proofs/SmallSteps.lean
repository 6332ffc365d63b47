import Mathlib.Logic.Function.Iterate
import Mustache.Proofs.MonitoredRuns

/-!
# Runs step by step

The machine as a row of tasks, the first of which one step does. Nothing bounds the row or the
number of steps beforehand: a step may bring in any code that the host answers with. Every run ends
all the same, with the result of the machine, and no step has more partials and expansions inside
one another than the limit allows.
-/

namespace Mustache

set_option autoImplicit false

/-- What is left to do. -/
inductive Task where
  /-- Runs the words ahead of a frame. -/
  | words (frame : Frame)
  /-- Runs a body once for each item. -/
  | items (body : Code) (items : List Value)
  | expansion (text : String) (pair : Delimiters)
  | template (name indentation : String)
  /-- Leaves a partial or an expansion. -/
  | ascend
  | popFrame
  /-- Goes back to the outer output and appends the lines of the inner one to it. -/
  | outdent (indentation : String) (outer : Output)
  | blame (location : Option Location)

/-- Whether the task ends a partial or an expansion that was entered. -/
def Task.ascends : Task → Bool
  | ascend => true
  | _ => false

/-- The tasks ahead, the number of levels entered, why the tasks are given up, if they are, and the
state of the run. -/
structure Configuration (State : Type) where
  tasks : List Task
  depth : Nat
  outcome : Except Stop Unit
  state : RunState State

variable {State : Type}

namespace Run

variable {Result : Type}

def pushFrame (frame : Value) : Run State Unit := fun state =>
  (.ok (), { state with context := state.context.push frame })

/-- Starts an output of its own and gives the outer one. -/
def redirect : Run State Output := fun state =>
  (.ok state.output, { state with output := Output.empty state.output.escaping })

/-- What a section does at once with its value. -/
def beginBlock (entry : SectionEntry) (body : Code) (value : Value) : Run State (List Task) :=
  match SectionPlan.of value with
  | .skip => pure []
  | .once => pure [.words (Frame.start body)]
  | .enter frame => do
    pushFrame frame
    pure [.words (Frame.start body), .popFrame]
  | .iterate items => pure [.items body items]
  | .expand callable =>
    let text := (callable.apply entry.raw).text
    if Text.contains entry.delimiters.opening.toList text.toList then
      pure [.expansion text entry.delimiters]
    else do
      write text
      pure []

/-- What an instruction does at once; the tasks that it leaves come next. -/
def begin (code : Code) : Instruction → Run State (List Task)
  | .halt => pure []
  | .text index => do
    let text ← fromPool .textConstants index code.constants[index]?
    write text
    pure []
  | .escapedTag => do
    let value ← popValue
    writeEscaped value.tagText
    pure []
  | .unescapedTag => do
    let value ← popValue
    write value.tagText
    pure []
  | .fetch index => do
    let name ← fromPool .names index code.names[index]?
    let value ← fromContext fun context => context.fetch name
    pushValue value
    pure []
  | .fetchImplicit => do
    let value ← fromContext Context.top
    pushValue value
    pure []
  | .find index => do
    let container ← popValue
    let name ← fromPool .names index code.names[index]?
    pushValue (Context.find container name)
    pure []
  | .block index => do
    let value ← popValue
    let entry ← fromPool .sections index code.sections[index]?
    let body ← fromPool .sectionBodies entry.body code.children[entry.body]?
    beginBlock entry body value
  | .inverted index => do
    let value ← popValue
    if value.isFalsy then do
      let body ← fromPool .sectionBodies index code.children[index]?
      pure [.words (Frame.start body)]
    else pure []
  | .partialTag nameIndex indentationIndex => do
    let name ← fromPool .textConstants nameIndex code.constants[nameIndex]?
    let indentation ← fromPool .textConstants indentationIndex code.constants[indentationIndex]?
    pure [.template name indentation]

variable [Host State]

def enterExpansion (text : String) (pair : Delimiters) : Run State (List Task) := do
  let code ← ask fun host => Host.expand host text pair
  pure [.words (Frame.start code)]

def enterTemplate (name indentation : String) : Run State (List Task) := do
  let found ← ask fun host => Host.partial? host name
  match found with
  | none => pure []
  | some template =>
    if indentation.isEmpty then pure [.words (Frame.start template)]
    else do
      let outer ← redirect
      pure [.words (Frame.start template), .outdent indentation outer]

end Run

namespace Configuration

/-- A task was begun and leaves others, or stopped. -/
def begun (depth : Nat) (rest : List Task) (result : Except Stop (List Task) × RunState State) :
    Configuration State :=
  match result with
  | (.ok tasks, after) => ⟨tasks ++ rest, depth, .ok (), after⟩
  | (.error reason, after) => ⟨rest, depth, .error reason, after⟩

def ended (depth : Nat) (rest : List Task) (result : Except Stop Unit × RunState State) :
    Configuration State :=
  ⟨rest, depth, result.1, result.2⟩

variable [Host State] (limit : Nat)

def advance (depth : Nat) (state : RunState State) (rest : List Task) :
    Task → Configuration State
  | .words frame =>
    match frame.decode? with
    | none => ended depth rest (.ok (), state)
    | some (.error defect) => ended depth rest (.error (.fault defect), state)
    | some (.ok (.halt, _)) => ended depth rest (.ok (), state)
    | some (.ok (instruction, next)) =>
      begun depth (.blame frame.location? :: .words next :: rest)
        (Run.begin frame.code instruction state)
  | .items _ [] => ended depth rest (.ok (), state)
  | .items body (item :: items) =>
    begun depth (.items body items :: rest)
      (.ok [.words (Frame.start body), .popFrame],
        { state with context := state.context.push item })
  | .expansion text pair =>
    if limit ≤ depth then ended depth rest (Run.fail (.depthExceeded limit) state)
    else begun (depth + 1) (.ascend :: rest) (Run.enterExpansion text pair state)
  | .template name indentation =>
    if limit ≤ depth then ended depth rest (Run.fail (.depthExceeded limit) state)
    else begun (depth + 1) (.ascend :: rest) (Run.enterTemplate name indentation state)
  | .ascend => ended (depth - 1) rest (.ok (), state)
  | .popFrame => ended depth rest (.ok (), { state with context := state.context.pop.2 })
  | .outdent indentation outer =>
    ended depth rest (.ok (), { state with
      output := outer.pushTrusted (Text.indent state.output.text indentation) })
  | .blame _ => ended depth rest (.ok (), state)

variable {limit} in
theorem advance_of_step {depth : Nat} {state : RunState State} {rest : List Task}
    {frame next : Frame} {instruction : Instruction} (goes : instruction ≠ .halt)
    (decoded : frame.decode? = some (.ok (instruction, next))) :
    advance limit depth state rest (.words frame) =
      begun depth (.blame frame.location? :: .words next :: rest)
        (Run.begin frame.code instruction state) := by
  unfold advance
  dsimp only
  rw [decoded]
  cases instruction with
  | halt => exact absurd rfl goes
  | _ => rfl

/-- Gives a task up: what was entered is left, and nothing is begun. -/
def abandon (depth : Nat) (reason : Stop) (state : RunState State) (rest : List Task) :
    Task → Configuration State
  | .ascend => ended (depth - 1) rest (.error reason, state)
  | .popFrame => ended depth rest (.error reason, { state with context := state.context.pop.2 })
  | .outdent _ outer => ended depth rest (.error reason, { state with output := outer })
  | .blame location => ended depth rest (Run.located location (Run.stop reason) state)
  | _ => ended depth rest (.error reason, state)

/-- Does the first task, or gives it up if the run has stopped. -/
def step (configuration : Configuration State) : Configuration State :=
  match configuration.tasks with
  | [] => configuration
  | task :: rest =>
    match configuration.outcome with
    | .ok () => advance limit configuration.depth configuration.state rest task
    | .error reason => abandon configuration.depth reason configuration.state rest task

/-- How many partials and expansions are inside one another. -/
def active (configuration : Configuration State) : Nat :=
  configuration.tasks.countP Task.ascends

def Reaches (first last : Configuration State) : Prop :=
  ∃ count, (step limit)^[count] first = last

variable {limit}

theorem Reaches.refl (configuration : Configuration State) :
    Reaches limit configuration configuration := ⟨0, rfl⟩

theorem Reaches.trans {first second third : Configuration State}
    (left : Reaches limit first second) (right : Reaches limit second third) :
    Reaches limit first third := by
  obtain ⟨count, rfl⟩ := left
  obtain ⟨more, rfl⟩ := right
  exact ⟨more + count, Function.iterate_add_apply _ _ _ _⟩

theorem Reaches.head {first last : Configuration State}
    (later : Reaches limit (step limit first) last) : Reaches limit first last := by
  obtain ⟨count, rfl⟩ := later
  exact ⟨count + 1, Function.iterate_succ_apply _ _ _⟩

end Configuration

open Mustache.Configuration

section Simulation

variable [Host State] {limit depth : Nat}

variable (State) in
/-- At the end of its words and at a broken word a frame ends the run where it is; otherwise there is
an instruction to begin. -/
theorem advance_words_cases (limit : Nat) (frame : Frame) :
    (∃ outcome, (∀ remaining, (Run.execute limit remaining frame : Run State Unit) =
        fun state => (outcome, state)) ∧
      ∀ depth (state : RunState State) rest,
        advance limit depth state rest (.words frame) = ended depth rest (outcome, state)) ∨
    ∃ instruction next, instruction ≠ .halt ∧
      frame.decode? = some (.ok (instruction, next)) := by
  unfold advance
  dsimp only
  rcases frame.decode?_cases with none | ⟨defect, broken⟩ | ⟨next, halts⟩ | goes
  · refine .inl ⟨.ok (), ?_, ?_⟩
    · intro remaining
      rw [Run.execute_eq, none]
      rfl
    · rw [none]
      exact fun _ _ _ => rfl
  · refine .inl ⟨.error (.fault defect), ?_, ?_⟩
    · intro remaining
      rw [Run.execute_eq, broken]
      rfl
    · rw [broken]
      exact fun _ _ _ => rfl
  · refine .inl ⟨.ok (), ?_, ?_⟩
    · intro remaining
      rw [Run.execute_eq, halts]
      rfl
    · rw [halts]
      exact fun _ _ _ => rfl
  · exact .inr goes

/-- Begun in any state, with any tasks behind it, what is begun does what the run does. -/
def Run.Carries (limit depth : Nat) (first : Run State (List Task)) (run : Run State Unit) : Prop :=
  ∀ (state : RunState State) (rest : List Task),
    Reaches limit (begun depth rest (first state)) (ended depth rest (run state))

namespace Run.Carries

variable {Result : Type}

theorem bind (first : Run State Result) {next : Result → Run State (List Task)}
    {later : Result → Run State Unit}
    (nexts : ∀ result, Carries limit depth (next result) (later result)) :
    Carries limit depth (first >>= next) (first >>= later) := by
  intro state rest
  simp only [bind_def, andThen]
  cases first state with
  | mk outcome after =>
    cases outcome with
    | error reason => exact Reaches.refl _
    | ok result => exact nexts result after rest

theorem nothing : Carries limit depth (pure [] : Run State (List Task)) (pure ()) :=
  fun _ _ => Reaches.refl _

theorem last (run : Run State Unit) :
    Carries limit depth (run >>= fun _ => (pure [] : Run State (List Task))) run := by
  have whole : Carries limit depth (run >>= fun _ => pure []) (run >>= fun _ => pure ()) :=
    bind run fun _ => nothing
  rwa [bind_pure_unit] at whole

theorem stop (reason : Stop) :
    Carries limit depth (Run.stop reason : Run State (List Task)) (Run.stop reason) :=
  fun _ _ => Reaches.refl _

variable {task : Task} {run : Run State Unit}

theorem single (done : ∀ (state : RunState State) (rest : List Task),
      Reaches limit (advance limit depth state rest task) (ended depth rest (run state))) :
    Carries limit depth (pure [task]) run :=
  fun state rest => (done state rest).head

theorem withFrame (frame : Value)
    (body : Carries limit depth (pure [task]) run) :
    Carries limit depth (pushFrame frame >>= fun _ => pure [task, .popFrame])
      (Run.withFrame frame run) := by
  intro state rest
  have inner := body { state with context := state.context.push frame } (.popFrame :: rest)
  apply inner.trans
  apply Reaches.head
  unfold Run.withFrame ended step
  dsimp only
  cases run { state with context := state.context.push frame } with
  | mk outcome after => cases outcome <;> exact Reaches.refl _

theorem forEach {body : Code} (each : Carries limit depth (pure [.words (Frame.start body)]) run)
    (items : List Value) :
    Carries limit depth (pure [.items body items])
      (Run.forEach (fun item => Run.withFrame item run) items) := by
  induction items with
  | nil => exact single fun _ _ => Reaches.refl _
  | cons item items ih =>
    apply single
    intro state rest
    apply (each.withFrame item state (.items body items :: rest)).trans
    unfold Run.forEach andThen
    cases Run.withFrame item run state with
    | mk outcome after =>
      cases outcome with
      | error reason => exact (Reaches.refl _).head
      | ok _ => exact ih after rest

theorem indented (indentation : String) (body : Carries limit depth (pure [task]) run) :
    Carries limit depth (redirect >>= fun outer => pure [task, .outdent indentation outer])
      (Run.indented indentation run) := by
  intro state rest
  have inner := body { state with output := Output.empty state.output.escaping }
    (.outdent indentation state.output :: rest)
  apply inner.trans
  apply Reaches.head
  unfold Run.indented ended step
  dsimp only
  cases run { state with output := Output.empty state.output.escaping } with
  | mk outcome after => cases outcome <;> exact Reaches.refl _

/-- One level deeper is left again, also behind an error. -/
theorem ascend {first : Run State (List Task)} (body : Carries limit (depth + 1) first run)
    (state : RunState State) (rest : List Task) :
    Reaches limit (begun (depth + 1) (.ascend :: rest) (first state))
      (ended depth rest (run state)) := by
  apply (body state (.ascend :: rest)).trans
  apply Reaches.head
  unfold ended step
  dsimp only
  cases run state with
  | mk outcome after => cases outcome <;> exact Reaches.refl _

section Descent

variable {remaining : Nat} {run : Nat → Code → Run State Unit}
  (level : depth + remaining = limit)
  (templates : ∀ (below : Nat) (template : Code), remaining = below + 1 →
    Carries limit (depth + 1) (pure [.words (Frame.start template)]) (run below template))

include level templates

theorem expansion (text : String) (pair : Delimiters) :
    Carries limit depth (pure [.expansion text pair])
      (descend limit remaining run fun enter => do
        let code ← ask fun host => Host.expand host text pair
        enter code) := by
  apply single
  intro state rest
  unfold advance
  dsimp only
  cases remaining with
  | zero =>
    rw [if_pos (by omega)]
    exact Reaches.refl _
  | succ below =>
    rw [if_neg (by omega)]
    apply ascend
    exact bind _ fun code => templates below code rfl

theorem template (name indentation : String) :
    Carries limit depth (pure [.template name indentation])
      (descend limit remaining run fun enter => do
        let found ← ask fun host => Host.partial? host name
        match found with
        | none => pure ()
        | some template =>
          if indentation.isEmpty then enter template
          else Run.indented indentation (enter template)) := by
  apply single
  intro state rest
  unfold advance
  dsimp only
  cases remaining with
  | zero =>
    rw [if_pos (by omega)]
    exact Reaches.refl _
  | succ below =>
    rw [if_neg (by omega)]
    apply ascend
    apply bind
    intro found
    cases found with
    | none => exact nothing
    | some template =>
      dsimp only
      split
      · exact templates below template rfl
      · exact (templates below template rfl).indented indentation

end Descent

/-- What an instruction begins is carried through, if the blocks below and the templates one level
deeper are. -/
theorem effect {remaining : Nat} {run : Nat → Code → Run State Unit} {code : Code}
    {inside : (child : Code) → child ∈ code.children → Run State Unit}
    (level : depth + remaining = limit)
    (enters : ∀ child found, Carries limit depth (pure [.words (Frame.start child)])
      (inside child found))
    (templates : ∀ (below : Nat) (template : Code), remaining = below + 1 →
      Carries limit (depth + 1) (pure [.words (Frame.start template)]) (run below template))
    (instruction : Instruction) :
    Carries limit depth (Run.begin code instruction)
      (Run.effect code popValue inside (descend limit remaining run) instruction) := by
  cases instruction with
  | halt => exact nothing
  | text index => exact bind _ fun _ => last _
  | escapedTag => exact bind _ fun _ => last _
  | unescapedTag => exact bind _ fun _ => last _
  | fetch index => exact bind _ fun _ => bind _ fun _ => last _
  | fetchImplicit => exact bind _ fun _ => last _
  | find index => exact bind _ fun _ => bind _ fun _ => last _
  | block index =>
    apply bind
    intro value
    apply bind
    intro entry
    split
    · rename_i missing
      rw [missing]
      exact stop _
    · rename_i body found
      have enter := enters body (Array.mem_of_getElem? found)
      rw [fromPool_of_some found, pure_bind]
      unfold beginBlock
      dsimp only
      cases SectionPlan.of value with
      | skip => exact nothing
      | once => exact enter
      | enter frame => exact enter.withFrame frame
      | iterate items => exact enter.forEach items
      | expand callable =>
        dsimp only
        split
        · exact expansion level templates _ _
        · exact last _
  | inverted index =>
    apply bind
    intro value
    split
    · split
      · rename_i missing
        rw [missing]
        exact stop _
      · rename_i body found
        rw [fromPool_of_some found, pure_bind]
        exact enters body (Array.mem_of_getElem? found)
    · exact nothing
  | partialTag nameIndex indentationIndex =>
    apply bind
    intro name
    apply bind
    intro indentation
    exact template level templates name indentation

end Run.Carries

/-- The words ahead of a frame are run to the end of their block. -/
theorem Run.carries_execute (limit remaining : Nat) (frame : Frame) :
    ∀ depth : Nat, depth + remaining = limit →
      Run.Carries limit depth (pure [.words frame])
        (Run.execute limit remaining frame : Run State Unit) := by
  induction remaining, frame using Frame.descent with
  | step remaining frame inside deeper later =>
    intro depth level
    apply Run.Carries.single
    intro state rest
    rcases advance_words_cases State limit frame with ⟨outcome, runs, advances⟩ |
        ⟨instruction, next, goes, decoded⟩
    · rw [advances, runs]
      exact Reaches.refl _
    · -- The instruction first, then its blame, then the words behind it, which are fewer.
      have shorter := frame.decode?_shorter next instruction decoded
      rw [Run.execute_of_step goes decoded, Run.perform_eq_effect, advance_of_step goes decoded]
      have performed := Run.Carries.effect level (fun child found => inside child found depth level)
        (fun below template same => deeper below template same (depth + 1) (by omega)) instruction
        state (.blame frame.location? :: .words next :: rest)
      apply performed.trans
      apply Reaches.head
      simp only [Run.bind_def, Run.andThen, Run.located]
      cases Run.effect frame.code Run.popValue _ _ instruction state with
      | mk outcome after =>
        cases outcome with
        | ok _ => exact later next shorter.1 shorter.2 depth level after rest
        | error reason =>
          apply Reaches.head
          cases reason <;> exact Reaches.refl _

end Simulation

end Mustache
