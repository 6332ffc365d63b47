import Mustache.Code.Frame
import Mustache.RunError

/-!
# Instructions

An instruction is an opcode with its operands, which index the pools of its block.
-/

namespace Mustache

set_option autoImplicit false

/-- A decoded instruction. -/
inductive Instruction where
  | halt
  | text (constant : Nat)
  | escapedTag
  | unescapedTag
  | fetch (name : Nat)
  | fetchImplicit
  | find (name : Nat)
  | block (entry : Nat)
  | inverted (child : Nat)
  | partialTag (name indentation : Nat)
deriving Repr, DecidableEq, Inhabited

namespace Frame

def operand? (frame : Frame) : Option (Nat × Frame) :=
  frame.readWord?.map fun read => (read.1.toNat, read.2)

def operands? (frame : Frame) (opcode : Opcode) : Option (Instruction × Frame) :=
  match opcode with
  | .halt => some (.halt, frame)
  | .text => frame.operand?.map fun constant => (.text constant.1, constant.2)
  | .escapedTag => some (.escapedTag, frame)
  | .unescapedTag => some (.unescapedTag, frame)
  | .fetch => frame.operand?.map fun name => (.fetch name.1, name.2)
  | .fetchImplicit => some (.fetchImplicit, frame)
  | .find => frame.operand?.map fun name => (.find name.1, name.2)
  | .block => frame.operand?.map fun entry => (.block entry.1, entry.2)
  | .inverted => frame.operand?.map fun child => (.inverted child.1, child.2)
  | .partialTag =>
    frame.operand?.bind fun name =>
      name.2.operand?.map fun indentation => (.partialTag name.1 indentation.1, indentation.2)

/-- Reads the next instruction; nothing at the end of the words. -/
def decode? (frame : Frame) : Option (Except Fault (Instruction × Frame)) :=
  match frame.readWord? with
  | none => none
  | some (word, next) =>
    match Opcode.ofWord? word with
    | none => some (.error (.unknownOpcode word frame.ip))
    | some opcode =>
      match next.operands? opcode with
      | none => some (.error (.missingOperand frame.ip))
      | some decoded => some (.ok decoded)

/-- `later` reads the same block as `frame` and has no more words ahead. -/
def Reaches (frame later : Frame) : Prop :=
  later.code = frame.code ∧ later.ahead.length ≤ frame.ahead.length

theorem Reaches.trans {first second third : Frame} (left : first.Reaches second)
    (right : second.Reaches third) : first.Reaches third :=
  ⟨right.1.trans left.1, Nat.le_trans right.2 left.2⟩

theorem Reaches.refl (frame : Frame) : frame.Reaches frame := ⟨rfl, Nat.le_refl _⟩

theorem reaches_operand? (frame : Frame) (read : Nat × Frame)
    (found : frame.operand? = some read) : frame.Reaches read.2 := by
  obtain ⟨⟨word, next⟩, known, rfl⟩ := Option.map_eq_some_iff.1 found
  have step := frame.readWord?_eq_some next word known
  exact ⟨step.1, by simp [step.2.2]⟩

theorem reaches_operands? (frame next : Frame) (opcode : Opcode) (instruction : Instruction)
    (found : frame.operands? opcode = some (instruction, next)) : frame.Reaches next := by
  cases opcode <;> simp only [operands?, Option.some.injEq, Prod.mk.injEq, Option.map_eq_some_iff,
    Option.bind_eq_some_iff] at found
  case partialTag =>
    obtain ⟨name, named, indentation, indented, _, rfl⟩ := found
    exact (frame.reaches_operand? name named).trans (name.2.reaches_operand? indentation indented)
  case halt | escapedTag | unescapedTag | fetchImplicit =>
    obtain ⟨_, rfl⟩ := found
    exact Reaches.refl frame
  case text | fetch | find | block | inverted =>
    obtain ⟨read, known, _, rfl⟩ := found
    exact frame.reaches_operand? read known

/-- Decoding stays in the block and consumes at least one word. -/
theorem decode?_shorter (frame next : Frame) (instruction : Instruction)
    (decoded : frame.decode? = some (.ok (instruction, next))) :
    next.code = frame.code ∧ next.ahead.length < frame.ahead.length := by
  unfold decode? at decoded
  split at decoded
  · cases decoded
  · rename_i word rest read
    have step := frame.readWord?_eq_some rest word read
    split at decoded
    · cases decoded
    · rename_i opcode known
      split at decoded
      · cases decoded
      · rename_i pair operands
        simp only [Option.some.injEq, Except.ok.injEq] at decoded
        subst decoded
        have reached := rest.reaches_operands? next opcode instruction operands
        refine ⟨reached.1.trans step.1, ?_⟩
        have shorter := reached.2
        simp only [step.2.2, List.length_cons]
        omega

end Frame

end Mustache
