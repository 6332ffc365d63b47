import Mathlib.Data.List.Forall2
import Mustache.Proofs.NodeLayout

/-!
# Well-formed code

The words of a block fall into instructions, each with the operands that its opcode asks for, and
end with the only halt. Whatever an instruction or a section entry refers to is there, in the block
and in all blocks below it. Each instruction finds as many values on the stack as it takes, since
the ones before it have left exactly those.
-/

namespace Mustache

set_option autoImplicit false

/-- How many values an instruction takes off the stack. -/
def Opcode.pops : Opcode → Nat
  | halt => 0
  | text => 0
  | escapedTag => 1
  | unescapedTag => 1
  | fetch => 0
  | fetchImplicit => 0
  | find => 1
  | block => 1
  | inverted => 1
  | partialTag => 0

/-- How many values an instruction leaves on the stack. -/
def Opcode.pushes : Opcode → Nat
  | fetch => 1
  | fetchImplicit => 1
  | find => 1
  | _ => 0

/-- What each operand of an instruction indexes. -/
def Opcode.pools :
    (opcode : Opcode) → { pools : List PoolKind // pools.length = opcode.operandCount }
  | halt => ⟨[], rfl⟩
  | text => ⟨[.textConstants], rfl⟩
  | escapedTag => ⟨[], rfl⟩
  | unescapedTag => ⟨[], rfl⟩
  | fetch => ⟨[.names], rfl⟩
  | fetchImplicit => ⟨[], rfl⟩
  | find => ⟨[.names], rfl⟩
  | block => ⟨[.sections], rfl⟩
  | inverted => ⟨[.sectionBodies], rfl⟩
  | partialTag => ⟨[.textConstants, .textConstants], rfl⟩

def Code.poolSize (code : Code) : PoolKind → Nat
  | .textConstants => code.constants.size
  | .names => code.names.size
  | .sectionBodies => code.children.size
  | .sections => code.sections.size

theorem Code.Begins.poolSize_le {part whole : Code} (begins : part.Begins whole) (pool : PoolKind) :
    part.poolSize pool ≤ whole.poolSize pool := by
  cases pool with
  | textConstants => simpa [poolSize] using begins.constants.length_le
  | names => simpa [poolSize] using begins.names.length_le
  | sectionBodies => simpa [poolSize] using begins.children.length_le
  | sections => simpa [poolSize] using begins.sections.length_le

/-- An opcode with its operand words. -/
structure Part where
  opcode : Opcode
  operands : List UInt16
deriving Repr, DecidableEq

namespace Part

def words (part : Part) : List UInt16 := part.opcode.word :: part.operands

/-- The part is an instruction of the block, and not its end: it has the operands that its opcode
asks for, and the pool that an operand indexes has an entry there. -/
structure Fits (code : Code) (part : Part) : Prop where
  goes : part.opcode ≠ .halt
  operands : List.Forall₂ (fun operand pool => operand.toNat < code.poolSize pool)
    part.operands part.opcode.pools.val

theorem Fits.mono {code later : Code} {part : Part} (fits : part.Fits code)
    (grown : ∀ pool, code.poolSize pool ≤ later.poolSize pool) : part.Fits later :=
  ⟨fits.goes, fits.operands.imp fun _ pool inside => Nat.lt_of_lt_of_le inside (grown pool)⟩

/-- One part after another takes exactly the values that are left by the parts before it. -/
def Row : Nat → List Part → Nat → Prop
  | height, [], last => height = last
  | height, part :: rest, last => part.opcode.pops = height ∧ Row part.opcode.pushes rest last

theorem Row.append {height middle last : Nat} {first second : List Part}
    (front : Row height first middle) (back : Row middle second last) :
    Row height (first ++ second) last := by
  induction first generalizing height with
  | nil =>
    cases front
    exact back
  | cons part first ih => exact ⟨front.1, ih front.2⟩

end Part

/-- Everything that running the block relies on, in it and in all blocks below. -/
inductive Code.WellFormed : Code → Prop where
  | intro (code : Code) (parts : List Part)
      (words : code.words.toList = parts.flatMap Part.words ++ [Opcode.halt.word])
      (fits : ∀ part ∈ parts, part.Fits code) (row : Part.Row 0 parts 0)
      (bodies : ∀ entry ∈ code.sections, entry.body < code.children.size)
      (locations : code.locations.size = code.words.size)
      (children : ∀ child ∈ code.children, child.WellFormed) : WellFormed code

namespace Compiler

theorem code_emit (compiler : Compiler) (opcode : Opcode) (operands : List UInt16) :
    (compiler.emit opcode operands).code.words.toList =
        compiler.code.words.toList ++ opcode.word :: operands ∧
      (compiler.emit opcode operands).code.sections = compiler.code.sections ∧
      (compiler.emit opcode operands).code.children = compiler.code.children := by
  rw [emit, CodeBuilder.emit_eq]
  exact ⟨by simp [code, CodeBuilder.toCode], rfl, rfl⟩

/-- The block under construction is well formed but for its halt, and leaves `height` values. -/
structure Tidy (compiler : Compiler) (height : Nat) : Prop where
  parts : ∃ parts : List Part, compiler.code.words.toList = parts.flatMap Part.words ∧
    (∀ part ∈ parts, part.Fits compiler.code) ∧ Part.Row 0 parts height
  bodies : ∀ entry ∈ compiler.code.sections, entry.body < compiler.code.children.size
  children : ∀ child ∈ compiler.code.children, child.WellFormed
  sound : compiler.Sound

theorem tidy_start (name : String) : (Compiler.start name).Tidy 0 where
  parts := ⟨[], rfl, by simp, rfl⟩
  bodies := by simp [code, start, CodeBuilder.start, CodeBuilder.toCode]
  children := by simp [code, start, CodeBuilder.start, CodeBuilder.toCode]
  sound := sound_start name

namespace Tidy

variable {compiler next : Compiler} {height : Nat}

/-- Adding entries to the tables keeps the block in order. -/
theorem grow (tidy : compiler.Tidy height) (grown : compiler.Extends next)
    (words : next.code.words = compiler.code.words)
    (bodies : ∀ entry ∈ next.code.sections, entry.body < next.code.children.size)
    (children : ∀ child ∈ next.code.children, child.WellFormed) : next.Tidy height := by
  obtain ⟨parts, split, fits, row⟩ := tidy.parts
  refine ⟨⟨parts, ?_, ?_, row⟩, bodies, children, grown.sound tidy.sound⟩
  · rw [words]
    exact split
  · intro part inside
    exact (fits part inside).mono grown.begins.poolSize_le

theorem moveTo (tidy : compiler.Tidy height) (position : Position) :
    (compiler.moveTo position).Tidy height :=
  tidy.grow (extends_moveTo compiler position) rfl tidy.bodies tidy.children

/-- An instruction that takes what is left can be emitted. -/
theorem emit {opcode : Opcode} {operands : List UInt16} (tidy : compiler.Tidy opcode.pops)
    (fits : Part.Fits compiler.code ⟨opcode, operands⟩) :
    (compiler.emit opcode operands).Tidy opcode.pushes := by
  obtain ⟨parts, split, fitsParts, row⟩ := tidy.parts
  have grown := extends_emit compiler opcode operands
  obtain ⟨written, sections, children⟩ := code_emit compiler opcode operands
  refine ⟨⟨parts ++ [(⟨opcode, operands⟩ : Part)], ?_, ?_, row.append ⟨rfl, rfl⟩⟩, ?_, ?_,
    grown.sound tidy.sound⟩
  · rw [written, split]
    simp [Part.words]
  · intro part inside
    rcases List.mem_append.1 inside with earlier | last
    · exact (fitsParts part earlier).mono grown.begins.poolSize_le
    · rw [List.mem_singleton.1 last]
      exact fits.mono grown.begins.poolSize_le
  · rw [sections, children]
    exact tidy.bodies
  · rw [children]
    exact tidy.children

theorem constant {text : String} {added : UInt16 × Compiler} (tidy : compiler.Tidy height)
    (compiled : compiler.constant text = .ok added) :
    added.2.Tidy height ∧ added.1.toNat < added.2.code.poolSize .textConstants := by
  have adds := constant_inv compiled
  obtain ⟨inside, _⟩ := Array.getElem?_eq_some_iff.1 (adds.found tidy.sound)
  refine ⟨?_, inside⟩
  obtain ⟨word, _, rfl⟩ := map_eq_ok compiled
  exact tidy.grow adds.extends_next rfl tidy.bodies tidy.children

theorem lookUp {opcode : Opcode} {name : String} (tidy : compiler.Tidy opcode.pops)
    (goes : opcode ≠ .halt) (pools : opcode.pools.val = [.names])
    (compiled : compiler.lookUp opcode name = .ok next) : next.Tidy opcode.pushes := by
  obtain ⟨word, rfl, found⟩ := lookUp_inv compiled
  obtain ⟨inside, _⟩ := Array.getElem?_eq_some_iff.1 (found tidy.sound)
  have grown := tidy.grow (extends_addName compiler name) rfl tidy.bodies tidy.children
  apply grown.emit
  refine ⟨goes, ?_⟩
  rw [pools]
  exact .cons inside .nil

theorem findAll {names : List String} (tidy : compiler.Tidy 1)
    (compiled : compiler.findAll names = .ok next) : next.Tidy 1 := by
  induction names generalizing compiler with
  | nil =>
    cases compiled
    exact tidy
  | cons name rest ih =>
    rw [Compiler.findAll] at compiled
    split at compiled
    · cases compiled
    · rename_i middle found
      exact ih (tidy.lookUp (by simp) rfl found) compiled

theorem path {path : Path} (tidy : compiler.Tidy 0) (compiled : compiler.path path = .ok next) :
    next.Tidy 1 := by
  unfold Compiler.path at compiled
  split at compiled
  · cases compiled
    exact tidy.emit ⟨by simp, .nil⟩
  · split at compiled
    · cases compiled
    · rename_i middle found
      exact (tidy.lookUp (by simp) rfl found).findAll compiled

theorem valueTag {opcode : Opcode} {path : Path} {position : Position} (tidy : compiler.Tidy 0)
    (takes : opcode.pops = 1) (leaves : opcode.pushes = 0) (goes : opcode ≠ .halt)
    (pools : opcode.pools.val = []) (compiled : compiler.valueTag opcode path position = .ok next) :
    next.Tidy 0 := by
  obtain ⟨middle, found, rfl⟩ := map_eq_ok compiled
  have resolved := (tidy.moveTo position).path found
  rw [← takes] at resolved
  rw [← leaves]
  apply resolved.emit
  exact ⟨goes, by simp [pools]⟩

theorem text {content : String} (tidy : compiler.Tidy 0)
    (compiled : compiler.text content = .ok next) : next.Tidy 0 := by
  unfold Compiler.text at compiled
  split at compiled
  · cases compiled
    exact tidy
  · obtain ⟨added, kept, rfl⟩ := map_eq_ok compiled
    obtain ⟨grown, inside⟩ := tidy.constant kept
    exact grown.emit ⟨by simp, .cons inside .nil⟩

theorem partialTag {name indentation : String} {position : Position} (tidy : compiler.Tidy 0)
    (compiled : compiler.partialTag name indentation position = .ok next) : next.Tidy 0 := by
  unfold Compiler.partialTag at compiled
  split at compiled
  · cases compiled
  · rename_i named found
    obtain ⟨indented, kept, rfl⟩ := map_eq_ok compiled
    obtain ⟨grown, inside⟩ := (tidy.moveTo position).constant found
    obtain ⟨grownAgain, insideAgain⟩ := grown.constant kept
    have later := (constant_inv kept).extends_next.begins.poolSize_le .textConstants
    exact grownAgain.emit ⟨by simp, .cons (Nat.lt_of_lt_of_le inside later)
      (.cons insideAgain .nil)⟩

theorem addChild {body : Code} (tidy : compiler.Tidy height) (wellFormed : body.WellFormed) :
    Compiler.Tidy ⟨(compiler.builder.addChild body).2, compiler.position⟩ height := by
  apply tidy.grow (extends_addChild compiler body) rfl
  · intro entry inside
    have before := tidy.bodies entry inside
    simp only [code, CodeBuilder.toCode, CodeBuilder.addChild, Array.size_push] at before ⊢
    omega
  · intro child inside
    rcases Array.mem_push.1 inside with earlier | rfl
    · exact tidy.children child earlier
    · exact wellFormed

theorem addSection {entry : SectionEntry} (tidy : compiler.Tidy height)
    (known : entry.body < compiler.code.children.size) :
    Compiler.Tidy ⟨(compiler.builder.addSection entry).2, compiler.position⟩ height := by
  apply tidy.grow (extends_addSection compiler entry) rfl
  · intro other inside
    rcases Array.mem_push.1 inside with earlier | rfl
    · exact tidy.bodies other earlier
    · exact known
  · exact tidy.children

theorem enterBlock {body : Code} {raw : String} {pair : Delimiters} {position : Position}
    (tidy : compiler.Tidy 1) (wellFormed : body.WellFormed)
    (compiled : compiler.enterBlock body raw pair position = .ok next) : next.Tidy 0 := by
  unfold Compiler.enterBlock at compiled
  dsimp only at compiled
  split at compiled
  · cases compiled
  · obtain ⟨index, fits, rfl⟩ := map_eq_ok compiled
    let entry : SectionEntry := ⟨compiler.builder.children.size, raw, pair⟩
    have known : entry.body < (compiler.builder.addChild body).2.toCode.children.size := by
      simp [entry, CodeBuilder.toCode, CodeBuilder.addChild]
    have entered := (tidy.addChild wellFormed).addSection known
    apply (entered.moveTo position).emit
    refine ⟨by simp, .cons ?_ .nil⟩
    rw [toNat_of_operand fits]
    simp [Code.poolSize, code, CodeBuilder.toCode, CodeBuilder.addChild, CodeBuilder.addSection,
      Compiler.moveTo, CodeBuilder.setLocation]

theorem enterInverted {body : Code} {position : Position} (tidy : compiler.Tidy 1)
    (wellFormed : body.WellFormed) (compiled : compiler.enterInverted body position = .ok next) :
    next.Tidy 0 := by
  obtain ⟨index, fits, rfl⟩ := map_eq_ok compiled
  apply ((tidy.addChild wellFormed).moveTo position).emit
  refine ⟨by simp, .cons ?_ .nil⟩
  rw [toNat_of_operand fits]
  simp [Code.poolSize, code, CodeBuilder.toCode, CodeBuilder.addChild, Compiler.moveTo,
    CodeBuilder.setLocation]

theorem finish (tidy : compiler.Tidy 0) : compiler.finish.WellFormed := by
  -- Only the halt is missing, and it needs the stack to be as it was before the block.
  obtain ⟨parts, split, fits, row⟩ := tidy.parts
  have grown := extends_emit compiler .halt []
  obtain ⟨halt, sections, children⟩ := code_emit compiler .halt []
  change (compiler.emit .halt []).code.WellFormed
  apply Code.WellFormed.intro _ parts
  · rw [halt, split]
  · intro part inside
    exact (fits part inside).mono grown.begins.poolSize_le
  · exact row
  · rw [sections, children]
    exact tidy.bodies
  · exact (grown.sound tidy.sound).locations
  · rw [children]
    exact tidy.children

end Tidy

mutual

theorem tidy_node {compiler next : Compiler} (node : Node) (tidy : compiler.Tidy 0)
    (compiled : compiler.node node = .ok next) : next.Tidy 0 := by
  cases node with
  | sequence children =>
    rw [Compiler.node] at compiled
    exact tidy_nodes children tidy compiled
  | text content =>
    rw [Compiler.node] at compiled
    exact tidy.text compiled
  | escaped path position =>
    rw [Compiler.node] at compiled
    exact tidy.valueTag rfl rfl (by simp) rfl compiled
  | unescaped path position =>
    rw [Compiler.node] at compiled
    exact tidy.valueTag rfl rfl (by simp) rfl compiled
  | block path body raw pair position =>
    rw [Compiler.node] at compiled
    split at compiled
    · cases compiled
    · rename_i found resolved
      split at compiled
      · cases compiled
      · rename_i inner built
        -- The body has a builder of its own, so it is tidy from its own start.
        have below := (tidy_nodes body (tidy_start "") built).finish
        exact ((tidy.moveTo position).path resolved).enterBlock below compiled
  | inverted path body position =>
    rw [Compiler.node] at compiled
    split at compiled
    · cases compiled
    · rename_i found resolved
      split at compiled
      · cases compiled
      · rename_i inner built
        have below := (tidy_nodes body (tidy_start "") built).finish
        exact ((tidy.moveTo position).path resolved).enterInverted below compiled
  | partialTag name indentation position =>
    rw [Compiler.node] at compiled
    exact tidy.partialTag compiled
  | comment content position =>
    rw [Compiler.node] at compiled
    cases compiled
    exact tidy
  | delimiters pair position =>
    rw [Compiler.node] at compiled
    cases compiled
    exact tidy

theorem tidy_nodes {compiler next : Compiler} (nodes : List Node) (tidy : compiler.Tidy 0)
    (compiled : compiler.nodes nodes = .ok next) : next.Tidy 0 := by
  cases nodes with
  | nil =>
    rw [Compiler.nodes] at compiled
    cases compiled
    exact tidy
  | cons first rest =>
    rw [Compiler.nodes] at compiled
    split at compiled
    · cases compiled
    · rename_i middle built
      exact tidy_nodes rest (tidy_node first tidy built) compiled

end

end Compiler

/-- Code generated from a tree is well formed. -/
theorem Node.wellFormed_toCode {node : Node} {name : String} {code : Code}
    (generated : node.toCode name = .ok code) : code.WellFormed := by
  obtain ⟨next, compiled, rfl⟩ := Compiler.map_eq_ok generated
  exact (Compiler.tidy_node node (Compiler.tidy_start name) compiled).finish

end Mustache
