import Mustache.Code
import Std.Data.HashMap

/-!
# Assembling a block

A builder collects the words of one block together with its pools. Equal texts share one entry of a
pool; children and section entries are kept as they come. Indices and offsets that an operation
returns stay valid, because nothing is ever removed.
-/

namespace Mustache

set_option autoImplicit false

/-- Distinct texts in order of their first use, with the index of each. -/
structure Pool where
  items : Array String
  index : Std.HashMap String Nat
deriving Inhabited

namespace Pool

def empty : Pool := ⟨#[], ∅⟩

/-- The index of a text, which is added if it is new. -/
def intern (pool : Pool) (text : String) : Nat × Pool :=
  match pool.index[text]? with
  | some index => (index, pool)
  | none =>
    let index := pool.items.size
    (index, ⟨pool.items.push text, pool.index.insert text index⟩)

end Pool

/-- A block under construction. -/
structure CodeBuilder where
  name : String
  words : Array UInt16
  locations : Array Location
  constants : Pool
  names : Pool
  sections : Array SectionEntry
  children : Array Code
  /-- The location given to the words that are emitted next. -/
  location : Location
deriving Inhabited

namespace CodeBuilder

def start (name : String) : CodeBuilder :=
  ⟨name, #[], #[], Pool.empty, Pool.empty, #[], #[], Location.unset⟩

/-- Sets the location of the words to come. -/
def setLocation (builder : CodeBuilder) (location : Location) : CodeBuilder :=
  { builder with location }

def offset (builder : CodeBuilder) : Nat := builder.words.size

def pushWord (builder : CodeBuilder) (word : UInt16) : CodeBuilder :=
  { builder with
    words := builder.words.push word
    locations := builder.locations.push builder.location }

/-- Appends an opcode word and its operands; the result holds the offset of the opcode. -/
def emit (builder : CodeBuilder) (word : UInt16) (operands : List UInt16) : Nat × CodeBuilder :=
  (builder.offset, operands.foldl pushWord (builder.pushWord word))

def addConstant (builder : CodeBuilder) (text : String) : Nat × CodeBuilder :=
  let constant := builder.constants.intern text
  (constant.1, { builder with constants := constant.2 })

def addName (builder : CodeBuilder) (text : String) : Nat × CodeBuilder :=
  let name := builder.names.intern text
  (name.1, { builder with names := name.2 })

def addChild (builder : CodeBuilder) (child : Code) : Nat × CodeBuilder :=
  (builder.children.size, { builder with children := builder.children.push child })

/-- Appends an entry to the section table. -/
def addSection (builder : CodeBuilder) (entry : SectionEntry) : Nat × CodeBuilder :=
  (builder.sections.size, { builder with sections := builder.sections.push entry })

def toCode (builder : CodeBuilder) : Code where
  name := builder.name
  words := builder.words
  constants := builder.constants.items
  names := builder.names.items
  sections := builder.sections
  children := builder.children
  locations := builder.locations

end CodeBuilder

end Mustache
