import Mustache.Code.Builder
import Mustache.Parse

/-!
# From trees to code

Literal text and tags become instructions in source order; the body of each section becomes a child
block with pools of its own. Operands are 16 bits wide, so a block holds at most 65536 entries of
each kind, and one entry more is an error and never a wrapped index.
-/

namespace Mustache

set_option autoImplicit false

/-- What a block can hold too many of. -/
inductive PoolKind where
  | textConstants
  | names
  | sectionBodies
  | sections
deriving Repr, DecidableEq, Inhabited

/-- The name of a pool in messages. -/
def PoolKind.label : PoolKind → String
  | textConstants => "text constants"
  | names => "names"
  | sectionBodies => "section bodies"
  | sections => "sections"

/-- A pool that an operand can no longer index, and the tag that asked for one entry more. -/
structure Overflow where
  pool : PoolKind
  line : Nat
  column : Nat
deriving Repr, DecidableEq, Inhabited

/-- Why a template does not compile. -/
inductive CompileError where
  | parse (error : ParseError)
  | tooLarge (overflow : Overflow)
deriving Repr, DecidableEq, Inhabited

namespace CompileError

def message : CompileError → String
  | parse error => "parse error: " ++ error.message
  | tooLarge overflow =>
    "too many " ++ overflow.pool.label ++ " in one block at line " ++ Nat.repr overflow.line ++
      ", column " ++ Nat.repr overflow.column

end CompileError

/-- A block under construction and the last tag that it met; before the first tag that is the
beginning of the source. -/
structure Compiler where
  builder : CodeBuilder
  position : Position

namespace Compiler

def start (name : String) : Compiler := ⟨CodeBuilder.start name, Position.start⟩

/-- Turns to the tag at a position. -/
def moveTo (compiler : Compiler) (position : Position) : Compiler :=
  ⟨compiler.builder.setLocation ⟨position.lineNumber, position.columnNumber⟩, position⟩

def emit (compiler : Compiler) (opcode : Opcode) (operands : List UInt16) : Compiler :=
  { compiler with builder := (compiler.builder.emit opcode.word operands).2 }

/-- The operand for an index of a pool that the tag at `position` uses. -/
def operand (position : Position) (pool : PoolKind) (index : Nat) : Except Overflow UInt16 :=
  if index < UInt16.size then .ok (UInt16.ofNat index)
  else .error ⟨pool, position.lineNumber, position.columnNumber⟩

def constant (compiler : Compiler) (text : String) : Except Overflow (UInt16 × Compiler) :=
  let position := compiler.position
  let added := compiler.builder.addConstant text
  (operand position .textConstants added.1).map fun index => (index, ⟨added.2, position⟩)

/-- Adds a name and the instruction that looks it up. -/
def lookUp (compiler : Compiler) (opcode : Opcode) (name : String) : Except Overflow Compiler :=
  let position := compiler.position
  let added := compiler.builder.addName name
  (operand position .names added.1).map fun index =>
    (Compiler.mk added.2 position).emit opcode [index]

/-- Looks up members one inside the other. -/
def findAll (compiler : Compiler) : List String → Except Overflow Compiler
  | [] => .ok compiler
  | name :: rest =>
    match compiler.lookUp .find name with
    | .error overflow => .error overflow
    | .ok next => next.findAll rest

/-- Looks up a path: the first segment in the context, each other in the value before it. -/
def path (compiler : Compiler) (path : Path) : Except Overflow Compiler :=
  match path.segments with
  | [] => .ok (compiler.emit .fetchImplicit [])
  | first :: rest =>
    match compiler.lookUp .fetch first with
    | .error overflow => .error overflow
    | .ok next => next.findAll rest

def valueTag (compiler : Compiler) (opcode : Opcode) (path : Path) (position : Position) :
    Except Overflow Compiler :=
  ((compiler.moveTo position).path path).map fun next => next.emit opcode []

/-- Literal text; nothing is emitted for an empty one. -/
def text (compiler : Compiler) (content : String) : Except Overflow Compiler :=
  if content.isEmpty then .ok compiler
  else (compiler.constant content).map fun added => added.2.emit .text [added.1]

def partialTag (compiler : Compiler) (name indentation : String) (position : Position) :
    Except Overflow Compiler :=
  match (compiler.moveTo position).constant name with
  | .error overflow => .error overflow
  | .ok named =>
    (named.2.constant indentation).map fun indented =>
      indented.2.emit .partialTag [named.1, indented.1]

/-- Adds a finished body and the instruction that enters it as a section. -/
def enterBlock (compiler : Compiler) (body : Code) (raw : String) (delimiters : Delimiters)
    (position : Position) : Except Overflow Compiler :=
  let tag := compiler.position
  let child := compiler.builder.addChild body
  match operand tag .sectionBodies child.1 with
  | .error overflow => .error overflow
  | .ok _ =>
    let entry := child.2.addSection ⟨child.1, raw, delimiters⟩
    (operand tag .sections entry.1).map fun index =>
      ((Compiler.mk entry.2 tag).moveTo position).emit .block [index]

/-- Adds a finished body and the instruction that enters it as an inverted section. -/
def enterInverted (compiler : Compiler) (body : Code) (position : Position) :
    Except Overflow Compiler :=
  let tag := compiler.position
  let child := compiler.builder.addChild body
  (operand tag .sectionBodies child.1).map fun index =>
    ((Compiler.mk child.2 tag).moveTo position).emit .inverted [index]

def finish (compiler : Compiler) : Code := (compiler.emit .halt []).builder.toCode

mutual

def node (compiler : Compiler) : Node → Except Overflow Compiler
  | .sequence children => nodes compiler children
  | .text content => compiler.text content
  | .escaped path position => compiler.valueTag .escapedTag path position
  | .unescaped path position => compiler.valueTag .unescapedTag path position
  | .block path body raw delimiters position =>
    match (compiler.moveTo position).path path with
    | .error overflow => .error overflow
    | .ok found =>
      match nodes (Compiler.start "") body with
      | .error overflow => .error overflow
      | .ok inner => found.enterBlock inner.finish raw delimiters position
  | .inverted path body position =>
    match (compiler.moveTo position).path path with
    | .error overflow => .error overflow
    | .ok found =>
      match nodes (Compiler.start "") body with
      | .error overflow => .error overflow
      | .ok inner => found.enterInverted inner.finish position
  | .partialTag name indentation position => compiler.partialTag name indentation position
  | .comment _ _ => .ok compiler
  | .delimiters _ _ => .ok compiler

def nodes (compiler : Compiler) : List Node → Except Overflow Compiler
  | [] => .ok compiler
  | first :: rest =>
    match node compiler first with
    | .error overflow => .error overflow
    | .ok next => nodes next rest

end

end Compiler

def Node.toCode (node : Node) (name : String) : Except Overflow Code :=
  ((Compiler.start name).node node).map Compiler.finish

/-- Compiles a template that starts under the given delimiters. -/
def compile (name : String) (delimiters : Delimiters) (source : String) :
    Except CompileError Code :=
  match parse delimiters source with
  | .error error => .error (.parse error)
  | .ok node => (node.toCode name).mapError .tooLarge

end Mustache
