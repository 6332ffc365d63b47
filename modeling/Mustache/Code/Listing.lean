import Mustache.Code
import Mustache.Text.Quoted

/-!
# Listings

A listing has one line for each instruction, and the lines of a section's body follow the line that
enters it, indented one level more. A line shows the offset of the opcode, the opcode, its operands
and what they stand for.
-/

namespace Mustache.Code

set_option autoImplicit false

/-- One line of a listing. -/
structure Line where
  /-- How many sections are around the instruction. -/
  depth : Nat
  /-- The offset of the opcode in its block. -/
  offset : Nat
  /-- The opcode and what the listing says about it. -/
  content : String
deriving Repr, DecidableEq, Inhabited

/-- The text of a line: two spaces for each level, the offset in four digits or more, the content. -/
def Line.toText (line : Line) : String :=
  let digits := Nat.toDigits 10 line.offset
  String.ofList (List.replicate (2 * line.depth) ' ' ++ List.replicate (4 - digits.length) '0' ++
    digits) ++ " " ++ line.content

/-- The text that an index of a pool stands for, or a question mark outside of the pool. -/
def poolText (pool : Array String) (index : UInt16) : String :=
  pool[index.toNat]?.getD "?"

/-- What a line says about an instruction. Operands that are cut off by the end of the words are
not shown. -/
def describe (code : Code) (opcode : Opcode) (operands : List UInt16) : String :=
  opcode.name ++
    match opcode, operands with
    | .text, [constant] =>
      " " ++ Nat.repr constant.toNat ++ " (" ++ Text.quote (poolText code.constants constant) ++ ")"
    | .fetch, [name] => " " ++ Nat.repr name.toNat ++ " (" ++ poolText code.names name ++ ")"
    | .find, [name] => " " ++ Nat.repr name.toNat ++ " (" ++ poolText code.names name ++ ")"
    | .partialTag, [name, indentation] =>
      " " ++ Nat.repr name.toNat ++ " " ++ Nat.repr indentation.toNat ++ " (" ++
        Text.quote (poolText code.constants name) ++ ", " ++
        Text.quote (poolText code.constants indentation) ++ ")"
    | .block, [entry] => " " ++ Nat.repr entry.toNat
    | .inverted, [child] => " " ++ Nat.repr child.toNat
    | _, _ => ""

/-- The index of the child that an instruction enters. -/
def entered? (code : Code) (opcode : Opcode) (operands : List UInt16) : Option Nat :=
  match opcode, operands with
  | .block, [entry] => code.sections[entry.toNat]?.map SectionEntry.body
  | .inverted, [child] => some child.toNat
  | _, _ => none

/-- Appends the lines of the words from `offset` on to `lines`, which are newest first. A word that
is no opcode has a line of its own. -/
def linesFrom (code : Code) (depth offset : Nat) (words : List UInt16) (lines : List Line) :
    List Line :=
  match words with
  | [] => lines
  | word :: rest =>
    match Opcode.ofWord? word with
    | none =>
      let line := ⟨depth, offset, "<invalid " ++ Nat.repr word.toNat ++ ">"⟩
      linesFrom code depth (offset + 1) rest (line :: lines)
    | some opcode =>
      let operands := rest.take opcode.operandCount
      let line := ⟨depth, offset, code.describe opcode operands⟩
      let inner :=
        match code.entered? opcode operands with
        | none => line :: lines
        | some index =>
          match _found : code.children[index]? with
          | none => line :: lines
          | some child => linesFrom child (depth + 1) 0 child.words.toList (line :: lines)
      linesFrom code depth (offset + 1 + opcode.operandCount) (rest.drop opcode.operandCount) inner
termination_by (sizeOf code, words.length)
decreasing_by
  · exact Prod.Lex.right _ (by simp)
  · exact Prod.Lex.left _ _ (code.sizeOf_child_lt child index _found)
  · exact Prod.Lex.right _ (by simp only [List.length_drop, List.length_cons]; omega)

/-- The lines of a block and of all blocks below it. -/
def lines (code : Code) : List Line :=
  (linesFrom code 0 0 code.words.toList []).reverse

/-- The listing of a block, a line break after every line. -/
def listing (code : Code) : String :=
  code.lines.foldl (fun text line => text ++ line.toText ++ "\n") ""

end Mustache.Code
