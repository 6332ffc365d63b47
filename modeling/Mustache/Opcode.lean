/-!
# Opcodes

Compiled templates are rows of 16-bit words. An instruction is an opcode word and the operand words
that the opcode asks for.
-/

namespace Mustache

set_option autoImplicit false

/-- What an instruction does. -/
inductive Opcode where
  /-- Ends the block. -/
  | halt
  /-- Writes a text constant as it is. -/
  | text
  /-- Pops a value and writes it escaped. -/
  | escapedTag
  /-- Pops a value and writes it as it is. -/
  | unescapedTag
  /-- Pushes what the context binds to a name. -/
  | fetch
  /-- Pushes the top of the context. -/
  | fetchImplicit
  /-- Pops a value and pushes its member of some name. -/
  | find
  /-- Pops a value and runs a section against it. -/
  | block
  /-- Pops a value and runs a body if the value is false or empty. -/
  | inverted
  /-- Runs another template in place. -/
  | partialTag
deriving Repr, DecidableEq, Inhabited

namespace Opcode

/-- The word that stands for an opcode. -/
def word : Opcode → UInt16
  | halt => 1
  | text => 10
  | escapedTag => 11
  | unescapedTag => 12
  | fetch => 20
  | fetchImplicit => 21
  | find => 22
  | block => 30
  | inverted => 31
  | partialTag => 32

def all : List Opcode :=
  [halt, text, escapedTag, unescapedTag, fetch, fetchImplicit, find, block, inverted, partialTag]

/-- The opcode that a word stands for. -/
def ofWord? (word : UInt16) : Option Opcode :=
  all.find? fun opcode => opcode.word == word

/-- How many operand words follow the opcode. -/
def operandCount : Opcode → Nat
  | halt => 0
  | text => 1
  | escapedTag => 0
  | unescapedTag => 0
  | fetch => 1
  | fetchImplicit => 0
  | find => 1
  | block => 1
  | inverted => 1
  | partialTag => 2

/-- The name of an opcode in listings. -/
def name : Opcode → String
  | halt => "Halt"
  | text => "Text"
  | escapedTag => "EscapedTag"
  | unescapedTag => "UnescapedTag"
  | fetch => "Fetch"
  | fetchImplicit => "FetchImplicit"
  | find => "Find"
  | block => "Section"
  | inverted => "InvertedSection"
  | partialTag => "Partial"

theorem ofWord?_word (opcode : Opcode) : ofWord? opcode.word = some opcode := by
  cases opcode <;> rfl

theorem word_of_ofWord? (word : UInt16) (opcode : Opcode) (known : ofWord? word = some opcode) :
    opcode.word = word := by
  simpa using List.find?_some known

end Opcode

end Mustache
