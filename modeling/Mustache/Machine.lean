import Mustache.Instruction
import Mustache.Run

/-!
# Running code

A block runs from its first word to its halt. Bodies of sections run inside the block that enters
them. Partials and the output of callables are blocks of their own, which may nest without a bound
of their own, so each one entered uses up one unit of `remaining`; with none left the run fails.
That, the finite tree of each block and its finite row of words bound every run.
-/

namespace Mustache

set_option autoImplicit false

/-- The settings of a render. -/
structure Options where
  escaping : Escaping
  /-- How many partials and callables may be inside one another. -/
  depthLimit : Nat
deriving Repr, DecidableEq

/-- HTML escaping, and 64 levels of partials and callables. -/
def Options.standard : Options := ⟨.html, 64⟩

instance : Inhabited Options := ⟨Options.standard⟩

namespace Run

variable {State : Type} [Host State]

mutual

/-- Runs the words ahead of a frame. -/
def execute (limit remaining : Nat) (frame : Frame) : Run State Unit :=
  match _decoded : frame.decode? with
  | none => pure ()
  | some (.error defect) => fault defect
  | some (.ok (.halt, _)) => pure ()
  | some (.ok (instruction, next)) => do
    located frame.location? (perform limit remaining frame.code instruction)
    execute limit remaining next
termination_by (remaining, sizeOf frame.code, frame.ahead.length)
decreasing_by
  · have shorter := frame.decode?_shorter next instruction _decoded
    have positive : 0 < frame.ahead.length := by omega
    exact Prod.Lex.right _ (Prod.Lex.right _ positive)
  · have shorter := frame.decode?_shorter next instruction _decoded
    rw [shorter.1]
    exact Prod.Lex.right _ (Prod.Lex.right _ shorter.2)

def perform (limit remaining : Nat) (code : Code) (instruction : Instruction) : Run State Unit :=
  match instruction with
  | .halt => pure ()
  | .text index => do
    let text ← fromPool .textConstants index code.constants[index]?
    write text
  | .escapedTag => do
    let value ← popValue
    writeEscaped value.tagText
  | .unescapedTag => do
    let value ← popValue
    write value.tagText
  | .fetch index => do
    let name ← fromPool .names index code.names[index]?
    let value ← fromContext fun context => context.fetch name
    pushValue value
  | .fetchImplicit => do
    let value ← fromContext Context.top
    pushValue value
  | .find index => do
    let container ← popValue
    let name ← fromPool .names index code.names[index]?
    pushValue (Context.find container name)
  | .block index => do
    let value ← popValue
    let entry ← fromPool .sections index code.sections[index]?
    match _found : code.children[entry.body]? with
    | none => fault (.outOfRange .sectionBodies entry.body)
    | some body =>
      match SectionPlan.of value with
      | .skip => pure ()
      | .once => execute limit remaining (Frame.start body)
      | .enter frame => withFrame frame (execute limit remaining (Frame.start body))
      | .iterate items =>
        forEach (fun item => withFrame item (execute limit remaining (Frame.start body))) items
      | .expand callable =>
        let text := (callable.apply entry.raw).text
        if Text.contains entry.delimiters.opening.toList text.toList then
          match remaining with
          | 0 => fail (.depthExceeded limit)
          | remaining + 1 => do
            let expansion ← ask fun host => Host.expand host text entry.delimiters
            execute limit remaining (Frame.start expansion)
        else write text
  | .inverted index => do
    let value ← popValue
    if value.isFalsy then
      match _found : code.children[index]? with
      | none => fault (.outOfRange .sectionBodies index)
      | some body => execute limit remaining (Frame.start body)
    else pure ()
  | .partialTag nameIndex indentationIndex => do
    let name ← fromPool .textConstants nameIndex code.constants[nameIndex]?
    let indentation ← fromPool .textConstants indentationIndex code.constants[indentationIndex]?
    match remaining with
    | 0 => fail (.depthExceeded limit)
    | remaining + 1 => do
      let found ← ask fun host => Host.partial? host name
      match found with
      | none => pure ()
      | some template =>
        if indentation.isEmpty then execute limit remaining (Frame.start template)
        else indented indentation (execute limit remaining (Frame.start template))
termination_by (remaining, sizeOf code, 0)
decreasing_by
  all_goals first
    | exact Prod.Lex.right _ (Prod.Lex.left _ _ (code.sizeOf_child_lt body _ _found))
    | exact Prod.Lex.left _ _ (Nat.lt_succ_self _)

end

end Run

/-- A machine keeps its context and its value stack from one run to the next. -/
structure Machine where
  options : Options
  context : Context
  stack : List Value
deriving Inhabited

namespace Machine

def new (options : Options) : Machine := ⟨options, Context.empty, []⟩

/-- What a run of a machine leaves behind. -/
structure Finished (State : Type) where
  outcome : Except Stop Unit
  machine : Machine
  host : State
  output : Output

variable {State : Type} [Host State]

/-- Runs code in the context of the machine and appends to an output. -/
def renderInto (machine : Machine) (code : Code) (host : State) (output : Output) :
    Finished State :=
  let limit := machine.options.depthLimit
  let result := Run.execute limit limit (Frame.start code)
    ⟨machine.context, machine.stack, output, host⟩
  ⟨result.1, ⟨machine.options, result.2.context, result.2.stack⟩, result.2.host, result.2.output⟩

/-- Renders code against data. The context starts with the ambient frame of the host and the data,
which stay on the machine afterwards; the value stack starts empty. -/
def render (machine : Machine) (code : Code) (data : Value) (host : State) : Finished State :=
  let frames :=
    match Host.ambient? host with
    | none => [data]
    | some ambient => [data, ambient]
  renderInto ⟨machine.options, ⟨frames⟩, []⟩ code host (Output.empty machine.options.escaping)

end Machine

end Mustache
