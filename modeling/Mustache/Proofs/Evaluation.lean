import Mustache.Machine

/-!
# Direct evaluation of trees

A tree can be rendered by walking it, without code, words or a value stack. This module states that
walk. Partials and the output of callables come from a host that answers with trees; such a host
fits a host of the machine if both give the same answers up to the code generated from the trees.

The walk never touches the value stack, so what is said about it holds for every content of the
stack.
-/

namespace Mustache

set_option autoImplicit false

/-- A host that answers with trees instead of code. -/
structure TreeHost (State : Type) where
  partial? : State → String → Except RunError (Option Node) × State
  expand : State → String → Delimiters → Except RunError Node × State

/-- The code was generated from the tree, under some name. -/
def Node.Generates (node : Node) (code : Code) : Prop := ∃ name, node.toCode name = .ok code

/-- Two answers to one question: the same error, or two results that fit. -/
inductive Answers {Tree Result : Type} (fits : Tree → Result → Prop) :
    Except RunError Tree → Except RunError Result → Prop where
  | error (reason : RunError) : Answers fits (.error reason) (.error reason)
  | ok (tree : Tree) (result : Result) (fit : fits tree result) :
      Answers fits (.ok tree) (.ok result)

/-- Both hosts answer every question in step: the same errors, the same states afterwards, and
code that was generated from the trees. It ranges over all values of `State`, so a host whose good
states are only some of them is taken with the type of its good states. -/
structure TreeHost.Compiles {State : Type} [Host State] (trees : TreeHost State) : Prop where
  partial? : ∀ (state : State) (name : String),
    Answers (Option.Rel Node.Generates) (trees.partial? state name).1 (Host.partial? state name).1 ∧
      (trees.partial? state name).2 = (Host.partial? state name).2
  expand : ∀ (state : State) (text : String) (pair : Delimiters),
    Answers Node.Generates (trees.expand state text pair).1 (Host.expand state text pair).1 ∧
      (trees.expand state text pair).2 = (Host.expand state text pair).2

namespace Run

variable {State : Type}

/-- The section-value table: what a section does with its value. Callables are left to `call`. -/
def table (body : Run State Unit) (call : Callable Value → Run State Unit) :
    Value → Run State Unit
  | .null => pure ()
  | .bool truth => if truth then body else pure ()
  | .list items => forEach (fun item => withFrame item body) items
  | .lambda callable => call callable
  | value => if value.isEmpty then pure () else withFrame value body

end Run

namespace Node

variable {State : Type}

/-- The location that an error at a tag is blamed on. -/
def locationAt (position : Position) : Option Location :=
  some ⟨position.lineNumber, position.columnNumber⟩

/-- The value that a path names in the context of the run. -/
def valueOf (path : Path) : Run State Value :=
  Run.fromContext fun context => context.resolve path.segments

mutual

/-- Renders a tree. `remaining` partials and callables may still be entered inside one another. -/
def evaluate (trees : TreeHost State) (limit remaining : Nat) (node : Node) : Run State Unit :=
  match node with
  | .sequence children => evaluateAll trees limit remaining children
  | .text content => Run.write content
  | .escaped path _ => do
    let value ← valueOf path
    Run.writeEscaped value.tagText
  | .unescaped path _ => do
    let value ← valueOf path
    Run.write value.tagText
  | .block path body raw pair position =>
    Run.located (locationAt position) do
      let value ← valueOf path
      Run.table (evaluateAll trees limit remaining body)
        (fun callable =>
          let text := (callable.apply raw).text
          if Text.contains pair.opening.toList text.toList then
            match remaining with
            | 0 => Run.fail (.depthExceeded limit)
            | below + 1 => do
              let expansion ← Run.ask fun host => trees.expand host text pair
              evaluate trees limit below expansion
          else Run.write text)
        value
  | .inverted path body position =>
    Run.located (locationAt position) do
      let value ← valueOf path
      if value.isFalsy then evaluateAll trees limit remaining body else pure ()
  | .partialTag name indentation position =>
    Run.located (locationAt position) do
      match remaining with
      | 0 => Run.fail (.depthExceeded limit)
      | below + 1 => do
        let found ← Run.ask fun host => trees.partial? host name
        match found with
        | none => pure ()
        | some template =>
          if indentation.isEmpty then evaluate trees limit below template
          else Run.indented indentation (evaluate trees limit below template)
  | .comment _ _ => pure ()
  | .delimiters _ _ => pure ()
termination_by (remaining, sizeOf node)

def evaluateAll (trees : TreeHost State) (limit remaining : Nat) (nodes : List Node) :
    Run State Unit :=
  match nodes with
  | [] => pure ()
  | first :: rest => do
    evaluate trees limit remaining first
    evaluateAll trees limit remaining rest
termination_by (remaining, sizeOf nodes)

end

end Node

end Mustache
