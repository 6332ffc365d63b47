import Mustache.Code

/-!
# Frames

A frame reads the words of one block from front to back.
-/

namespace Mustache

set_option autoImplicit false

/-- A block and the place of the next word in it. -/
structure Frame where
  code : Code
  /-- The offset of the next word. -/
  ip : Nat
  /-- The words from that offset on. -/
  ahead : List UInt16
deriving Repr, Inhabited

namespace Frame

/-- The frame at the first word of a block. -/
def start (code : Code) : Frame := ⟨code, 0, code.words.toList⟩

def readWord? (frame : Frame) : Option (UInt16 × Frame) :=
  match frame.ahead with
  | [] => none
  | word :: rest => some (word, ⟨frame.code, frame.ip + 1, rest⟩)

def atEnd (frame : Frame) : Bool := frame.ahead.isEmpty

/-- The source location of the next word. -/
def location? (frame : Frame) : Option Location := frame.code.location? frame.ip

def constant? (frame : Frame) (index : Nat) : Option String := frame.code.constants[index]?

def name? (frame : Frame) (index : Nat) : Option String := frame.code.names[index]?

/-- An entry of the block's section table. -/
def section? (frame : Frame) (index : Nat) : Option SectionEntry := frame.code.sections[index]?

def child? (frame : Frame) (index : Nat) : Option Code := frame.code.children[index]?

theorem readWord?_eq_some (frame next : Frame) (word : UInt16)
    (read : frame.readWord? = some (word, next)) :
    next.code = frame.code ∧ next.ip = frame.ip + 1 ∧ frame.ahead = word :: next.ahead := by
  unfold readWord? at read
  split at read
  · cases read
  · rename_i ahead
    simp only [Option.some.injEq, Prod.mk.injEq] at read
    obtain ⟨rfl, rfl⟩ := read
    exact ⟨rfl, rfl, ahead⟩

end Frame

end Mustache
