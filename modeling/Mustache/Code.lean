import Mustache.Delimiters
import Mustache.Opcode

/-!
# Compiled templates

A block of code has its words and the pools that their operands index. The bodies of sections are
blocks of their own, its children, so code is a finite tree; `sizeOf_child_lt` is the measure that
bounds every walk down that tree.
-/

namespace Mustache

set_option autoImplicit false

/-- A line and a column, both counted from one; zeros stand for no location. -/
structure Location where
  line : Nat
  column : Nat
deriving Repr, DecidableEq

def Location.unset : Location := ⟨0, 0⟩

instance : Inhabited Location := ⟨Location.unset⟩

/-- An entry of the section table. -/
structure SectionEntry where
  /-- The index of the body among the children. -/
  body : Nat
  /-- The source of the body, handed to callables. -/
  raw : String
  /-- The delimiters that the output of a callable is read under. -/
  delimiters : Delimiters
deriving Repr, DecidableEq, Inhabited

/-- A block of compiled code. -/
structure Code where
  /-- The name of the template; bodies of sections have none. -/
  name : String
  /-- Opcodes, each followed by its operands. -/
  words : Array UInt16
  /-- The texts that instructions write or name. -/
  constants : Array String
  /-- The names that instructions look up. -/
  names : Array String
  sections : Array SectionEntry
  children : Array Code
  /-- Where in the source each word stems from. -/
  locations : Array Location
deriving Repr, Inhabited

namespace Code

theorem sizeOf_child_lt (code child : Code) (index : Nat)
    (found : code.children[index]? = some child) : sizeOf child < sizeOf code := by
  have member := Array.mem_of_getElem? found
  have smaller := Array.sizeOf_lt_of_mem member
  cases code
  simp only [Code.mk.sizeOf_spec] at *
  omega

def location? (code : Code) (index : Nat) : Option Location := code.locations[index]?

end Code

end Mustache
