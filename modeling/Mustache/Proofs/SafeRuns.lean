import Mustache.Proofs.HostAnswers
import Mustache.Proofs.MonitoredRuns
import Mustache.Proofs.WellFormedCode

/-!
# Safe runs

The checked machine stops with an alarm where the plain one would go on: when it needs a value and
the stack is empty, and when a block ends on another stack than it began with. On well formed code
the two do the same and neither meets a fault, so no alarm was ever due.
-/

namespace Mustache

set_option autoImplicit false

/-- The instruction that a part spells. -/
def Part.instruction (part : Part) : Instruction :=
  match part.opcode, part.operands with
  | .text, [constant] => .text constant.toNat
  | .escapedTag, [] => .escapedTag
  | .unescapedTag, [] => .unescapedTag
  | .fetch, [name] => .fetch name.toNat
  | .fetchImplicit, [] => .fetchImplicit
  | .find, [name] => .find name.toNat
  | .block, [entry] => .block entry.toNat
  | .inverted, [child] => .inverted child.toNat
  | .partialTag, [name, indentation] => .partialTag name.toNat indentation.toNat
  | _, _ => .halt

namespace Frame

theorem decode?_of_fits {frame : Frame} {part : Part} {rest : List UInt16}
    (fits : part.Fits frame.code) (ahead : frame.ahead = part.words ++ rest) :
    part.instruction ≠ .halt ∧ frame.decode? =
      some (.ok (part.instruction,
        ⟨frame.code, frame.ip + 1 + part.opcode.operandCount, rest⟩)) := by
  obtain ⟨opcode, operands⟩ := part
  obtain ⟨goes, inside⟩ := fits
  have opened : frame.readWord? =
      some (opcode.word, ⟨frame.code, frame.ip + 1, operands ++ rest⟩) := by
    unfold readWord?
    rw [ahead]
    rfl
  unfold decode?
  rw [opened]
  dsimp only
  rw [Opcode.ofWord?_word]
  cases opcode with
  | halt => exact absurd rfl goes
  | escapedTag | unescapedTag | fetchImplicit =>
    cases inside
    exact ⟨nofun, rfl⟩
  | text | fetch | find | block | inverted =>
    cases inside with
    | cons _ none =>
      cases none
      exact ⟨nofun, rfl⟩
  | partialTag =>
    cases inside with
    | cons _ second =>
      cases second with
      | cons _ none =>
        cases none
        exact ⟨nofun, rfl⟩

/-- What lies ahead of the frame are instructions of its block and the halt, and the first of them
finds `height` values on the stack. -/
structure Ready (frame : Frame) (height : Nat) : Prop where
  wellFormed : frame.code.WellFormed
  parts : ∃ parts : List Part, frame.ahead = parts.flatMap Part.words ++ [Opcode.halt.word] ∧
    (∀ part ∈ parts, part.Fits frame.code) ∧ Part.Row height parts 0

theorem ready_start {code : Code} (wellFormed : code.WellFormed) : (start code).Ready 0 := by
  cases wellFormed with
  | intro _ parts words fits row bodies locations children =>
    exact ⟨.intro code parts words fits row bodies locations children, parts, words, fits, row⟩

/-- A frame is ready for the end of its block, or for an instruction and what follows it. -/
theorem Ready.cases {frame : Frame} {height : Nat} (ready : frame.Ready height) :
    (height = 0 ∧ ∃ next, frame.decode? = some (.ok (.halt, next))) ∨
      ∃ (part : Part) (next : Frame), part.Fits frame.code ∧ part.opcode.pops = height ∧
        part.instruction ≠ .halt ∧ frame.decode? = some (.ok (part.instruction, next)) ∧
        next.Ready part.opcode.pushes := by
  obtain ⟨wellFormed, parts, ahead, fits, row⟩ := ready
  cases parts with
  | nil =>
    refine .inl ⟨row, ⟨frame.code, frame.ip + 1, []⟩, ?_⟩
    unfold decode? readWord?
    rw [ahead]
    rfl
  | cons part parts =>
    have here := fits part List.mem_cons_self
    rw [List.flatMap_cons, List.append_assoc] at ahead
    obtain ⟨goes, decoded⟩ := decode?_of_fits here ahead
    refine .inr ⟨part, _, here, row.1, goes, decoded, wellFormed, parts, rfl, ?_, row.2⟩
    intro later inside
    exact fits later (List.mem_cons_of_mem part inside)

end Frame

variable {State : Type}

/-- All code that the host answers with, in whatever state it is asked, is well formed. -/
structure Host.WellFormed (State : Type) [Host State] : Prop where
  partial? : ∀ (state : State) (name : String) (found : Option Code),
    (Host.partial? state name).1 = .ok found → ∀ code, found = some code → code.WellFormed
  expand : ∀ (state : State) (text : String) (pair : Delimiters) (code : Code),
    (Host.expand state text pair).1 = .ok code → code.WellFormed

theorem Host.Generated.wellFormed [Host State] (generated : Host.Generated State) :
    Host.WellFormed State := by
  constructor
  · intro state name found answered code same
    rw [same] at answered
    obtain ⟨node, _, built⟩ := generated.partial? state name code answered
    exact Node.wellFormed_toCode built
  · intro state text pair code answered
    obtain ⟨node, _, built⟩ := generated.expand state text pair code answered
    exact Node.wellFormed_toCode built

namespace Run

variable {Result Other : Type}

/-- Takes the latest value off the stack, and raises the alarm if there is none. -/
def popExpected (alarm : Fault) : Run State Value := fun state =>
  match state.stack with
  | [] => fault alarm state
  | value :: rest => (.ok value, { state with stack := rest })

open Classical in
/-- Raises the alarm if the body, however it ends, leaves another stack than it found. -/
noncomputable def keeping (alarm : Fault) (body : Run State Unit) : Run State Unit := fun state =>
  let result := body state
  if result.2.stack = state.stack then result else (.error (.fault alarm), result.2)

/-- How a safe run ends: with values that it leaves on the stack, or with an error and none. -/
inductive Ends (leaves : Nat) (base : List Value) : Except Stop Result × RunState State → Prop where
  | ok (result : Result) (left : List Value) (after : RunState State)
      (length : left.length = leaves) (stack : after.stack = left ++ base) :
      Ends leaves base (.ok result, after)
  | error (reason : RunError) (after : RunState State) (stack : after.stack = base) :
      Ends leaves base (.error (.error reason), after)

namespace Ends

variable {leaves : Nat} {base : List Value}

theorem of_eq {result other : Except Stop Result × RunState State} (ends : Ends leaves base result)
    (outcome : other.1 = result.1) (stack : other.2.stack = result.2.stack) :
    Ends leaves base other := by
  obtain ⟨_, after⟩ := other
  cases outcome
  cases ends with
  | ok result left _ length kept => exact .ok result left after length (stack.trans kept)
  | error reason _ kept => exact .error reason after (stack.trans kept)

theorem stack {result : Except Stop Result × RunState State} (ends : Ends 0 base result) :
    result.2.stack = base := by
  cases ends with
  | ok _ left _ length stack => rwa [List.eq_nil_of_length_eq_zero length] at stack
  | error _ _ stack => exact stack

theorem ne_fault {result : Except Stop Result × RunState State} (ends : Ends leaves base result)
    (defect : Fault) : result.1 ≠ .error (.fault defect) := by
  cases ends <;> nofun

end Ends

/-- Where `takes` values wait to be used, the checked run does what the plain one does, and leaves
`leaves` values in their place. -/
def Balanced (takes leaves : Nat) (checked plain : Run State Result) : Prop :=
  ∀ (values base : List Value) (state : RunState State), values.length = takes →
    state.stack = values ++ base →
    checked state = plain state ∧ Ends leaves base (plain state)

namespace Balanced

variable {takes between leaves : Nat}

theorem done (result : Result) :
    Balanced takes takes (Run.done result : Run State Result) (Run.done result) :=
  fun values _ state length stack => ⟨rfl, .ok result values state length stack⟩

theorem bind {checked plain : Run State Result} {next later : Result → Run State Other}
    (first : Balanced takes between checked plain)
    (nexts : ∀ result, Balanced between leaves (next result) (later result)) :
    Balanced takes leaves (checked >>= next) (plain >>= later) := by
  intro values base state length stack
  obtain ⟨same, ends⟩ := first values base state length stack
  simp only [bind_def, andThen]
  rw [same]
  cases ran : plain state with
  | mk outcome after =>
    rw [ran] at ends
    cases ends with
    | ok result left after length stack => exact nexts result left base after length stack
    | error reason after stack => exact ⟨rfl, .error reason after stack⟩

theorem pop (alarm : Fault) : Balanced 1 0 (popExpected alarm : Run State Value) popValue := by
  intro values base state length stack
  obtain ⟨value, rfl⟩ := List.length_eq_one_iff.1 length
  unfold popExpected popValue
  rw [stack]
  exact ⟨rfl, .ok value [] _ rfl rfl⟩

theorem pushValue (value : Value) :
    Balanced 0 1 (Run.pushValue value : Run State Unit) (Run.pushValue value) := by
  intro values base state length stack
  refine ⟨rfl, .ok () [value] _ rfl ?_⟩
  rw [List.eq_nil_of_length_eq_zero length] at stack
  exact congrArg (List.cons value) stack

theorem fromContext (read : Context → Result) :
    Balanced takes takes (Run.fromContext read : Run State Result) (Run.fromContext read) :=
  fun values _ state length stack => ⟨rfl, .ok _ values state length stack⟩

theorem write (text : String) :
    Balanced takes takes (Run.write text : Run State Unit) (Run.write text) :=
  fun values _ _ length stack => ⟨rfl, .ok () values _ length stack⟩

theorem writeEscaped (text : String) :
    Balanced takes takes (Run.writeEscaped text : Run State Unit) (Run.writeEscaped text) :=
  fun values _ _ length stack => ⟨rfl, .ok () values _ length stack⟩

theorem fail (cause : RunCause) :
    Balanced 0 leaves (Run.fail cause : Run State Result) (Run.fail cause) := by
  intro values base state length stack
  rw [List.eq_nil_of_length_eq_zero length] at stack
  exact ⟨rfl, .error _ state stack⟩

theorem fromPool {table : Array Result} {pool : PoolKind} {index : Nat}
    {next later : Result → Run State Other} (inside : index < table.size)
    (nexts : ∀ item ∈ table, Balanced takes leaves (next item) (later item)) :
    Balanced takes leaves (Run.fromPool pool index table[index]? >>= next)
      (Run.fromPool pool index table[index]? >>= later) := by
  rw [Array.getElem?_eq_getElem inside]
  exact nexts table[index] (Array.getElem_mem inside)

theorem ask {question : State → Except RunError Result × State} {allowed : Result → Prop}
    {next later : Result → Run State Other}
    (answers : ∀ host result, (question host).1 = .ok result → allowed result)
    (nexts : ∀ result, allowed result → Balanced 0 leaves (next result) (later result)) :
    Balanced 0 leaves (Run.ask question >>= next) (Run.ask question >>= later) := by
  intro values base state length stack
  have allows := answers state.host
  simp only [bind_def, andThen, Run.ask]
  cases outcome : (question state.host).1 with
  | error reason =>
    rw [List.eq_nil_of_length_eq_zero length] at stack
    exact ⟨rfl, .error reason _ stack⟩
  | ok result => exact nexts result (allows result outcome) values base _ length stack

variable {checked plain : Run State Unit}

theorem withFrame (frame : Value) (body : Balanced takes leaves checked plain) :
    Balanced takes leaves (Run.withFrame frame checked) (Run.withFrame frame plain) := by
  intro values base state length stack
  obtain ⟨same, ends⟩ := body values base { state with context := state.context.push frame } length
    stack
  unfold Run.withFrame
  dsimp only
  rw [same]
  exact ⟨rfl, ends.of_eq rfl rfl⟩

theorem indented (indentation : String) (body : Balanced takes leaves checked plain) :
    Balanced takes leaves (Run.indented indentation checked) (Run.indented indentation plain) := by
  intro values base state length stack
  obtain ⟨same, ends⟩ := body values base
    { state with output := Output.empty state.output.escaping } length stack
  unfold Run.indented
  dsimp only
  rw [same]
  cases ran : plain { state with output := Output.empty state.output.escaping } with
  | mk outcome after =>
    rw [ran] at ends
    cases ends with
    | ok _ left _ length stack => exact ⟨rfl, .ok () left _ length stack⟩
    | error reason _ stack => exact ⟨rfl, .error reason _ stack⟩

theorem located (location : Option Location) (body : Balanced takes leaves checked plain) :
    Balanced takes leaves (Run.located location checked) (Run.located location plain) := by
  intro values base state length stack
  obtain ⟨same, ends⟩ := body values base state length stack
  unfold Run.located
  rw [same]
  cases ran : plain state with
  | mk outcome after =>
    rw [ran] at ends
    cases ends with
    | ok _ left _ length stack => exact ⟨rfl, .ok () left after length stack⟩
    | error reason _ stack => exact ⟨rfl, .error _ after stack⟩

theorem forEach {checked plain : Value → Run State Unit}
    (body : ∀ item, Balanced 0 0 (checked item) (plain item)) (items : List Value) :
    Balanced 0 0 (Run.forEach checked items) (Run.forEach plain items) := by
  induction items with
  | nil => exact done ()
  | cons item items ih => exact (body item).bind fun _ => ih

theorem keeping (alarm : Fault) (body : Balanced 0 0 checked plain) :
    Balanced 0 0 (Run.keeping alarm checked) plain := by
  intro values base state length stack
  obtain ⟨same, ends⟩ := body values base state length stack
  refine ⟨?_, ends⟩
  rw [List.eq_nil_of_length_eq_zero length] at stack
  unfold Run.keeping
  dsimp only
  rw [same, if_pos]
  rw [ends.stack, stack]
  rfl

end Balanced

section Parts

variable [Host State] (alarm : Fault) {code : Code}
  {inside insideOther : (child : Code) → child ∈ code.children → Run State Unit}
  (enters : ∀ child found, Balanced 0 0 (inside child found) (insideOther child found))
  {deeper deeperOther : ((Code → Run State Unit) → Run State Unit) → Run State Unit}
  (descends : ∀ body : (Code → Run State Unit) → Run State Unit,
    (∀ run runOther : Code → Run State Unit,
      (∀ template, template.WellFormed → Balanced 0 0 (run template) (runOther template)) →
      Balanced 0 0 (body run) (body runOther)) → Balanced 0 0 (deeper body) (deeperOther body))

include enters descends in
theorem balanced_block (hosts : Host.WellFormed State) {index : Nat}
    (known : index < code.sections.size)
    (bodies : ∀ entry ∈ code.sections, entry.body < code.children.size) :
    Balanced 1 0 (effect code (popExpected alarm) inside deeper (.block index))
      (effect code popValue insideOther deeperOther (.block index)) := by
  apply (Balanced.pop alarm).bind
  intro value
  apply Balanced.fromPool known
  intro entry member
  have child := Array.getElem?_eq_getElem (bodies entry member)
  dsimp only
  split
  · rename_i missing
    cases missing.symm.trans child
  · rename_i body found
    have enter := enters body (Array.mem_of_getElem? found)
    split
    · exact Balanced.done ()
    · exact enter
    · exact enter.withFrame _
    · exact Balanced.forEach (fun item => enter.withFrame item) _
    · split
      · apply descends
        intro run runOther runs
        exact Balanced.ask (fun host code => hosts.expand host _ _ code) runs
      · exact Balanced.write _

include enters in
theorem balanced_inverted {index : Nat} (known : index < code.children.size) :
    Balanced 1 0 (effect code (popExpected alarm) inside deeper (.inverted index))
      (effect code popValue insideOther deeperOther (.inverted index)) := by
  apply (Balanced.pop alarm).bind
  intro value
  have child := Array.getElem?_eq_getElem known
  split
  · split
    · rename_i missing
      cases missing.symm.trans child
    · rename_i body found
      exact enters body (Array.mem_of_getElem? found)
  · exact Balanced.done ()

include descends in
theorem balanced_partialTag (hosts : Host.WellFormed State) {nameIndex indentationIndex : Nat}
    (named : nameIndex < code.constants.size) (filled : indentationIndex < code.constants.size) :
    Balanced 0 0
      (effect code (popExpected alarm) inside deeper (.partialTag nameIndex indentationIndex))
      (effect code popValue insideOther deeperOther
        (.partialTag nameIndex indentationIndex)) := by
  apply Balanced.fromPool named
  intro name _
  apply Balanced.fromPool filled
  intro indentation _
  apply descends
  intro run runOther runs
  apply Balanced.ask (fun host found => hosts.partial? host name found)
  intro found wellFormed
  cases found with
  | none => exact Balanced.done ()
  | some template =>
    have ran := runs template (wellFormed template rfl)
    dsimp only
    split
    · exact ran
    · exact ran.indented _

include enters descends in
/-- The parts of well-formed code are balanced, if the blocks that they run are. -/
theorem balanced_effect (hosts : Host.WellFormed State) {part : Part} (fits : part.Fits code)
    (bodies : ∀ entry ∈ code.sections, entry.body < code.children.size) :
    Balanced part.opcode.pops part.opcode.pushes
      (effect code (popExpected alarm) inside deeper part.instruction)
      (effect code popValue insideOther deeperOther part.instruction) := by
  -- `Closed.effect` relates any instruction to itself, also one whose operand finds nothing.
  obtain ⟨opcode, operands⟩ := part
  obtain ⟨goes, operands⟩ := fits
  cases opcode with
  | halt => exact absurd rfl goes
  | text =>
    cases operands with
    | cons constant none =>
      cases none
      exact Balanced.fromPool constant fun text _ => Balanced.write text
  | escapedTag =>
    cases operands
    exact (Balanced.pop alarm).bind fun value => Balanced.writeEscaped _
  | unescapedTag =>
    cases operands
    exact (Balanced.pop alarm).bind fun value => Balanced.write _
  | fetch =>
    cases operands with
    | cons name none =>
      cases none
      apply Balanced.fromPool name
      intro name _
      exact (Balanced.fromContext _).bind Balanced.pushValue
  | fetchImplicit =>
    cases operands
    exact (Balanced.fromContext _).bind Balanced.pushValue
  | find =>
    cases operands with
    | cons name none =>
      cases none
      apply (Balanced.pop alarm).bind
      intro container
      exact Balanced.fromPool name fun name _ => Balanced.pushValue _
  | block =>
    cases operands with
    | cons entry none =>
      cases none
      exact balanced_block alarm enters descends hosts entry bodies
  | inverted =>
    cases operands with
    | cons child none =>
      cases none
      exact balanced_inverted alarm enters child
  | partialTag =>
    cases operands with
    | cons name second =>
      cases second with
      | cons indentation none =>
        cases none
        exact balanced_partialTag alarm descends hosts name indentation

end Parts

end Run

noncomputable def Monitor.checks (alarm : Fault) : Monitor State :=
  ⟨Run.popExpected alarm, Run.keeping alarm, id⟩

variable [Host State]

/-- The machine raises no alarm behind a frame that is ready. -/
theorem Monitor.balanced_execute (alarm : Fault) (hosts : Host.WellFormed State) (limit : Nat)
    (remaining : Nat) (frame : Frame) :
    ∀ height : Nat, frame.Ready height →
      Run.Balanced height 0 ((checks alarm).execute limit remaining frame)
        (Run.execute limit remaining frame : Run State Unit) := by
  -- The frame stays ready; the height that it is ready for is what the last part has left.
  induction remaining, frame using Frame.descent with
  | step remaining frame inside deeper later =>
    intro height ready
    rcases ready.cases with ⟨rfl, next, halts⟩ |
        ⟨part, next, fits, rfl, goes, decoded, readyNext⟩
    · rw [execute_eq, Run.execute_eq, halts]
      exact Run.Balanced.done ()
    · have shorter := frame.decode?_shorter next part.instruction decoded
      obtain ⟨_, _, _, _, _, bodies, _, children⟩ := ready.wellFormed
      rw [execute_of_step _ goes decoded, Run.execute_of_step goes decoded, Run.perform_eq_effect]
      apply Run.Balanced.bind
      · apply Run.Balanced.located
        apply Run.balanced_effect alarm ?_ ?_ hosts fits bodies
        · intro child found
          exact (inside child found 0 (Frame.ready_start (children child found))).keeping alarm
        · intro body related
          cases remaining with
          | zero => exact Run.Balanced.fail _
          | succ below =>
            apply related
            intro template wellFormed
            exact (deeper below template rfl 0 (Frame.ready_start wellFormed)).keeping alarm
      · intro _
        exact later next shorter.1 shorter.2 _ readyNext

/-- Compiled code never breaks the machine. Code generated from a tree is well formed, and on a host
of such code every run of it, at any depth and on any data, is the run of the checked machine,
whatever the alarm: no fault occurs, no value is taken off an empty stack, and every block leaves
the stack as it found it, also when the run ends in an error. -/
theorem execute_safe {node : Node} {name : String} {code : Code}
    (built : node.toCode name = .ok code) :
    code.WellFormed ∧ ∀ {State : Type} [Host State], Host.Generated State →
      (∀ (limit remaining : Nat) (state : RunState State),
        let ran := Run.execute limit remaining (Frame.start code) state
        (∀ alarm : Fault, (Monitor.checks alarm).run limit remaining code state = ran) ∧
          (∀ defect : Fault, ran.1 ≠ .error (.fault defect)) ∧ ran.2.stack = state.stack) ∧
      (∀ (machine : Machine) (host : State) (output : Output),
        let finished := machine.renderInto code host output
        (∀ defect : Fault, finished.outcome ≠ .error (.fault defect)) ∧
          finished.machine.stack = machine.stack) ∧
      ∀ (machine : Machine) (data : Value) (host : State),
        let finished := machine.render code data host
        (∀ defect : Fault, finished.outcome ≠ .error (.fault defect)) ∧
          finished.machine.stack = [] := by
  have wellFormed := Node.wellFormed_toCode built
  refine ⟨wellFormed, ?_⟩
  intro State host generated
  have balanced (alarm : Fault) (limit remaining : Nat) :=
    (Monitor.balanced_execute alarm generated.wellFormed limit remaining (Frame.start code) 0
      (Frame.ready_start wellFormed)).keeping alarm
  have ends (limit remaining : Nat) (state : RunState State) :=
    (balanced default limit remaining [] state.stack state rfl rfl).2
  have into (machine : Machine) (host : State) (output : Output) :
      let finished := machine.renderInto code host output
      (∀ defect : Fault, finished.outcome ≠ .error (.fault defect)) ∧
        finished.machine.stack = machine.stack := by
    have ended := ends machine.options.depthLimit machine.options.depthLimit
      ⟨machine.context, machine.stack, output, host⟩
    exact ⟨ended.ne_fault, ended.stack⟩
  refine ⟨?_, into, ?_⟩
  · intro limit remaining state ran
    have ended := ends limit remaining state
    refine ⟨?_, ended.ne_fault, ended.stack⟩
    intro alarm
    exact (balanced alarm limit remaining [] state.stack state rfl rfl).1
  · intro machine data host
    exact into _ host (Output.empty machine.options.escaping)

/-- A callable whose text needs a level that is not there: the value is off the stack, what waited
below it is still there. -/
theorem execute_safe_exceeded :
    let node := Node.block ⟨[]⟩ [] "\x7b\x7b.\x7d\x7d" Delimiters.standard Position.start
    let callable := Value.lambda (.expander fun raw => .string (raw ++ "&"))
    let state : RunState DotHost := ⟨⟨[callable]⟩, [.null], Output.empty .html, ⟨⟩⟩
    ∃ code, node.toCode "main" = .ok code ∧ code.WellFormed ∧
      let ran := Run.execute 0 0 (Frame.start code) state
      ran.1 = .error (.error ⟨.depthExceeded 0, some ⟨1, 1⟩⟩) ∧ ran.2.stack = [.null] ∧
        (Monitor.checks (.missingOperand 0)).run 0 0 code state = ran := by
  intro node callable state
  obtain ⟨wellFormed, safe⟩ := @execute_safe node "main" _ rfl
  obtain ⟨checked, -, kept⟩ := (safe DotHost.generated).1 0 0 state
  refine ⟨_, rfl, wellFormed, ?_, kept, checked (.missingOperand 0)⟩
  clear safe checked kept
  subst node callable state
  cbv

end Mustache
