import Mustache.Proofs.Restoring
import Mustache.Proofs.SmallSteps

/-!
# Every render ends

The tasks behind each task that ends a partial or an expansion lie one level further out, and no
level is entered beyond the limit. So as many templates are inside one another as levels are
counted, at every step that a render takes; and it takes finitely many, whatever the host brings in.
-/

namespace Mustache

set_option autoImplicit false

variable {State : Type}

namespace Run

variable {Result Other : Type} {good : Result → Prop}

def Returns (good : Result → Prop) (run : Run State Result) : Prop :=
  ∀ (state : RunState State) (result : Result), (run state).1 = .ok result → good result

theorem Returns.pure {result : Result} (known : good result) :
    Returns good (Pure.pure result : Run State Result) := by
  intro state other same
  cases same
  exact known

theorem Returns.bind {first : Run State Other} {next : Other → Run State Result}
    (nexts : ∀ other, Returns good (next other)) : Returns good (first >>= next) := by
  intro state result same
  simp only [bind_def, andThen] at same
  cases ran : first state with
  | mk outcome after =>
    rw [ran] at same
    cases outcome with
    | error reason => cases same
    | ok other => exact nexts other after result same

/-- Tasks none of which ends a partial or an expansion. -/
def Flat (tasks : List Task) : Prop := tasks.countP Task.ascends = 0

theorem flat_beginBlock (entry : SectionEntry) (body : Code) (value : Value) :
    Returns Flat (beginBlock entry body value : Run State (List Task)) := by
  unfold beginBlock
  cases SectionPlan.of value with
  | skip => exact Returns.pure rfl
  | once => exact Returns.pure rfl
  | enter frame => exact Returns.bind fun _ => Returns.pure rfl
  | iterate items => exact Returns.pure rfl
  | expand callable =>
    dsimp only
    split
    · exact Returns.pure rfl
    · exact Returns.bind fun _ => Returns.pure rfl

theorem flat_begin (code : Code) (instruction : Instruction) :
    Returns Flat (begin code instruction : Run State (List Task)) := by
  have none : Returns Flat (Pure.pure [] : Run State (List Task)) := Returns.pure rfl
  cases instruction with
  | halt => exact none
  | text index => exact Returns.bind fun _ => Returns.bind fun _ => none
  | escapedTag => exact Returns.bind fun _ => Returns.bind fun _ => none
  | unescapedTag => exact Returns.bind fun _ => Returns.bind fun _ => none
  | fetch index => exact Returns.bind fun _ => Returns.bind fun _ => Returns.bind fun _ => none
  | fetchImplicit => exact Returns.bind fun _ => Returns.bind fun _ => none
  | find index => exact Returns.bind fun _ => Returns.bind fun _ => Returns.bind fun _ => none
  | block index =>
    apply Returns.bind
    intro value
    apply Returns.bind
    intro entry
    apply Returns.bind
    intro body
    exact flat_beginBlock entry body value
  | inverted index =>
    apply Returns.bind
    intro value
    split
    · exact Returns.bind fun _ => Returns.pure rfl
    · exact none
  | partialTag nameIndex indentationIndex =>
    exact Returns.bind fun _ => Returns.bind fun _ => Returns.pure rfl

variable [Host State]

theorem flat_enterExpansion (text : String) (pair : Delimiters) :
    Returns Flat (enterExpansion text pair : Run State (List Task)) :=
  Returns.bind fun _ => Returns.pure rfl

theorem flat_enterTemplate (name indentation : String) :
    Returns Flat (enterTemplate name indentation : Run State (List Task)) := by
  apply Returns.bind
  intro found
  cases found with
  | none => exact Returns.pure rfl
  | some template =>
    dsimp only
    split
    · exact Returns.pure rfl
    · exact Returns.bind fun _ => Returns.pure rfl

end Run

namespace Configuration

/-- The levels are those of the tasks ahead, and are within the limit. -/
structure Leveled (limit : Nat) (configuration : Configuration State) : Prop where
  counted : configuration.active = configuration.depth
  bounded : configuration.depth ≤ limit

variable {limit depth : Nat} {rest : List Task}

theorem leveled_ended (counted : rest.countP Task.ascends = depth) (bounded : depth ≤ limit)
    (result : Except Stop Unit × RunState State) : (ended depth rest result).Leveled limit :=
  ⟨counted, bounded⟩

theorem leveled_begun {first : Run State (List Task)} (flat : Run.Returns Run.Flat first)
    (counted : rest.countP Task.ascends = depth) (bounded : depth ≤ limit)
    (state : RunState State) : (begun depth rest (first state)).Leveled limit := by
  have added := flat state
  cases ran : first state with
  | mk outcome after =>
    rw [ran] at added
    cases outcome with
    | error reason => exact ⟨counted, bounded⟩
    | ok tasks =>
      refine ⟨?_, bounded⟩
      have none : tasks.countP Task.ascends = 0 := added tasks rfl
      have split : (tasks ++ rest).countP Task.ascends = depth := by
        rw [List.countP_append, none, counted, Nat.zero_add]
      exact split

theorem countP_entered (counted : rest.countP Task.ascends = depth) :
    (Task.ascend :: rest).countP Task.ascends = depth + 1 := by
  rw [List.countP_cons_of_pos rfl, counted]

variable [Host State]

theorem leveled_advance {task : Task} (counted : (task :: rest).countP Task.ascends = depth)
    (bounded : depth ≤ limit) (state : RunState State) :
    (advance limit depth state rest task).Leveled limit := by
  -- Only a template or an expansion adds a task that ascends, and only behind the test of the limit.
  rw [List.countP_cons] at counted
  cases task with
  | words frame =>
    rcases advance_words_cases State limit frame with ⟨outcome, -, advances⟩ |
        ⟨instruction, next, goes, decoded⟩
    · rw [advances]
      exact leveled_ended counted bounded _
    · rw [advance_of_step goes decoded]
      have behind : (Task.blame frame.location? :: .words next :: rest).countP Task.ascends =
          depth := by
        rw [List.countP_cons_of_neg Bool.false_ne_true, List.countP_cons_of_neg Bool.false_ne_true]
        exact counted
      exact leveled_begun (Run.flat_begin frame.code instruction) behind bounded state
  | items body items =>
    cases items with
    | nil => exact leveled_ended counted bounded _
    | cons item items => exact ⟨counted, bounded⟩
  | expansion text pair =>
    unfold advance
    dsimp only
    split
    · exact leveled_ended counted bounded _
    · have behind := countP_entered counted
      exact leveled_begun (Run.flat_enterExpansion text pair) behind (by omega) state
  | template name indentation =>
    unfold advance
    dsimp only
    split
    · exact leveled_ended counted bounded _
    · have behind := countP_entered counted
      exact leveled_begun (Run.flat_enterTemplate name indentation) behind (by omega) state
  | ascend => exact leveled_ended (Nat.eq_sub_of_add_eq counted) (by omega) _
  | popFrame => exact leveled_ended counted bounded _
  | outdent indentation outer => exact leveled_ended counted bounded _
  | blame location => exact leveled_ended counted bounded _

omit [Host State] in
theorem leveled_abandon {task : Task} (counted : (task :: rest).countP Task.ascends = depth)
    (bounded : depth ≤ limit) (reason : Stop) (state : RunState State) :
    (abandon depth reason state rest task).Leveled limit := by
  rw [List.countP_cons] at counted
  cases task with
  | ascend => exact leveled_ended (Nat.eq_sub_of_add_eq counted) (by omega) _
  | _ => exact leveled_ended counted bounded _

theorem leveled_step {configuration : Configuration State}
    (leveled : configuration.Leveled limit) : (step limit configuration).Leveled limit := by
  obtain ⟨tasks, depth, outcome, state⟩ := configuration
  obtain ⟨counted, bounded⟩ := leveled
  cases tasks with
  | nil => exact ⟨counted, bounded⟩
  | cons task rest =>
    cases outcome with
    | ok _ => exact leveled_advance counted bounded state
    | error reason => exact leveled_abandon counted bounded reason state

theorem leveled_iterate {configuration : Configuration State}
    (leveled : configuration.Leveled limit) (count : Nat) :
    ((step limit)^[count] configuration).Leveled limit := by
  induction count generalizing configuration with
  | zero => exact leveled
  | succ count ih =>
    rw [Function.iterate_succ_apply]
    exact ih (leveled_step leveled)

end Configuration

namespace Machine

variable [Host State]

/-- The configuration that a render starts in. -/
def rendering (machine : Machine) (code : Code) (data : Value) (host : State) :
    Configuration State where
  tasks := [.words (Frame.start code)]
  depth := 0
  outcome := .ok ()
  state := ⟨⟨data :: (Host.ambient? host).toList⟩, [], Output.empty machine.options.escaping, host⟩

def Finished.configuration (finished : Finished State) : Configuration State where
  tasks := []
  depth := 0
  outcome := finished.outcome
  state := ⟨finished.machine.context, finished.machine.stack, finished.output, finished.host⟩

end Machine

/-- Every render ends, on every host: from its first step the machine comes in finitely many to the
result of the render, with no task left, and at each of them at most as many partials and expansions
are inside one another as the limit allows. Without a fault in the code the result is an output or
an error. -/
theorem render_terminates [Host State] (machine : Machine) (code : Code) (data : Value)
    (host : State) :
    let limit := machine.options.depthLimit
    let start := machine.rendering code data host
    let finished := machine.render code data host
    (∃ count, (Configuration.step limit)^[count] start = finished.configuration) ∧
    (∀ count, ((Configuration.step limit)^[count] start).active ≤ limit) ∧
    ((∀ defect : Fault, finished.outcome ≠ .error (.fault defect)) →
      finished.outcome = .ok () ∨ ∃ error : RunError, finished.outcome = .error (.error error)) := by
  intro limit start finished
  refine ⟨?_, ?_, ?_⟩
  · have carried := Run.carries_execute limit limit (Frame.start code) 0 (Nat.zero_add limit)
      start.state []
    have same : finished.configuration = Configuration.ended 0 []
        (Run.execute limit limit (Frame.start code) start.state) := by
      unfold finished start Machine.render Machine.rendering
      cases Host.ambient? host <;> rfl
    rw [same]
    exact carried
  · intro count
    have leveled : start.Leveled limit := ⟨rfl, Nat.zero_le limit⟩
    have reached := Configuration.leveled_iterate leveled count
    rw [reached.counted]
    exact reached.bounded
  · intro sound
    cases ended : finished.outcome with
    | ok _ => exact .inl rfl
    | error reason =>
      cases reason with
      | error error => exact .inr ⟨error, rfl⟩
      | fault defect => exact absurd ended (sound defect)

/-- A template that includes itself without end is cut off at two levels. -/
theorem render_terminates_echo :
    let start := (Machine.new ⟨.html, 2⟩).rendering EchoHost.code .null (⟨⟩ : EchoHost)
    let finished := (Machine.new ⟨.html, 2⟩).render EchoHost.code .null (⟨⟩ : EchoHost)
    (∀ defect : Fault, finished.outcome ≠ .error (.fault defect)) ∧
      (∃ error : RunError, finished.outcome = .error (.error error)) ∧
      (∃ count, (Configuration.step 2)^[count] start = finished.configuration) ∧
      ((Configuration.step 2)^[8] start).active = 2 := by
  intro start finished
  have exceeded : finished.outcome =
      .error (.error (RunError.ofCause (.depthExceeded 2))) := by cbv
  have sound (defect : Fault) : finished.outcome ≠ .error (.fault defect) := by
    rw [exceeded]
    intro same
    cases same
  obtain ⟨ends, -, result⟩ := render_terminates (Machine.new ⟨.html, 2⟩) EchoHost.code .null
    (⟨⟩ : EchoHost)
  refine ⟨sound, ?_, ends, ?_⟩
  · rcases result sound with done | failed
    · rw [show finished.outcome = .ok () from done] at exceeded
      cases exceeded
    · exact failed
  · cbv

end Mustache
