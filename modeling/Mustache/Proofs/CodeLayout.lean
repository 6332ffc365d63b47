import Mustache.Compile
import Mustache.Instruction

/-!
# Where code keeps its instructions

A block only grows while it is compiled: what is in one of its tables stays there under the same
index. So an instruction can be looked for in the finished block right when it is emitted.
-/

namespace Mustache

set_option autoImplicit false

def Frame.atOffset (code : Code) (offset : Nat) : Frame :=
  ⟨code, offset, code.words.toList.drop offset⟩

theorem Frame.start_eq_atOffset (code : Code) : Frame.start code = Frame.atOffset code 0 := rfl

namespace Code

/-- The block has the instruction at an offset, and the next one at `next`. -/
def Holds (code : Code) (offset : Nat) (instruction : Instruction) (next : Nat) : Prop :=
  (Frame.atOffset code offset).decode? = some (.ok (instruction, Frame.atOffset code next))

/-- Every table of `part` is the beginning of the table of `whole`. -/
structure Begins (part whole : Code) : Prop where
  words : part.words.toList <+: whole.words.toList
  constants : part.constants.toList <+: whole.constants.toList
  names : part.names.toList <+: whole.names.toList
  sections : part.sections.toList <+: whole.sections.toList
  children : part.children.toList <+: whole.children.toList
  locations : part.locations.toList <+: whole.locations.toList

theorem Begins.refl (code : Code) : code.Begins code :=
  ⟨List.prefix_rfl, List.prefix_rfl, List.prefix_rfl, List.prefix_rfl, List.prefix_rfl,
    List.prefix_rfl⟩

theorem Begins.trans {first second third : Code} (left : first.Begins second)
    (right : second.Begins third) : first.Begins third :=
  ⟨left.words.trans right.words, left.constants.trans right.constants,
    left.names.trans right.names, left.sections.trans right.sections,
    left.children.trans right.children, left.locations.trans right.locations⟩

theorem getElem?_of_prefix {Item : Type} {part whole : Array Item} {index : Nat} {item : Item}
    (begins : part.toList <+: whole.toList) (found : part[index]? = some item) :
    whole[index]? = some item := by
  rw [← Array.getElem?_toList] at found ⊢
  obtain ⟨bound, rfl⟩ := List.getElem?_eq_some_iff.1 found
  exact List.prefix_iff_getElem?.1 begins index bound

theorem holds_of_opcode {code : Code} {offset : Nat} (opcode : Opcode) (instruction : Instruction)
    (known : ∀ frame : Frame, frame.operands? opcode = some (instruction, frame))
    (read : code.words.toList.drop offset = opcode.word :: code.words.toList.drop (offset + 1)) :
    code.Holds offset instruction (offset + 1) := by
  unfold Holds Frame.decode? Frame.readWord? Frame.atOffset
  simp only [read, Opcode.ofWord?_word, known]

theorem holds_of_operand {code : Code} {offset : Nat} {operand : UInt16} (opcode : Opcode)
    (instruction : Nat → Instruction)
    (known : ∀ frame : Frame, frame.operands? opcode =
      frame.operand?.map fun read => (instruction read.1, read.2))
    (read : code.words.toList.drop offset =
      opcode.word :: operand :: code.words.toList.drop (offset + 2)) :
    code.Holds offset (instruction operand.toNat) (offset + 2) := by
  unfold Holds Frame.decode? Frame.readWord? Frame.atOffset
  simp only [read, Opcode.ofWord?_word, known, Frame.operand?, Frame.readWord?, Option.map_some]

theorem holds_of_operands {code : Code} {offset : Nat} {name indentation : UInt16}
    (read : code.words.toList.drop offset =
      Opcode.partialTag.word :: name :: indentation :: code.words.toList.drop (offset + 3)) :
    code.Holds offset (.partialTag name.toNat indentation.toNat) (offset + 3) := by
  unfold Holds Frame.decode? Frame.readWord? Frame.atOffset
  simp only [read, Opcode.ofWord?_word, Frame.operands?, Frame.operand?, Frame.readWord?,
    Option.map_some, Option.bind_some]

end Code

namespace Pool

/-- The index of a pool holds exactly its items, each under its own place. -/
def Faithful (pool : Pool) : Prop :=
  ∀ (text : String) (index : Nat), pool.index[text]? = some index ↔ pool.items[index]? = some text

theorem faithful_empty : Faithful Pool.empty := by
  intro text index
  simp [Pool.empty]

theorem prefix_intern (pool : Pool) (text : String) :
    pool.items.toList <+: (pool.intern text).2.items.toList := by
  unfold intern
  split
  · exact List.prefix_rfl
  · rw [Array.toList_push]
    exact List.prefix_append _ _

theorem faithful_intern {pool : Pool} (faithful : pool.Faithful) (text : String) :
    (pool.intern text).2.Faithful := by
  unfold intern
  split
  · exact faithful
  · rename_i absent
    intro other index
    dsimp only
    rw [Std.HashMap.getElem?_insert, Array.getElem?_push]
    have fresh : pool.items[index]? ≠ some text := by
      intro found
      rw [(faithful text index).2 found] at absent
      cases absent
    by_cases same : text = other
    · subst same
      by_cases last : index = pool.items.size
      · simp [last]
      · simp [last, Ne.symm last, fresh]
    · by_cases last : index = pool.items.size
      · subst last
        simp [same, faithful other]
      · simp [same, last, faithful other]

/-- The index that a text is given leads back to the text. -/
theorem getElem?_intern {pool : Pool} (faithful : pool.Faithful) (text : String) :
    (pool.intern text).2.items[(pool.intern text).1]? = some text := by
  unfold intern
  split
  · rename_i index found
    exact (faithful text index).1 found
  · exact Array.getElem?_push_size

end Pool

namespace CodeBuilder

theorem push_append {Item : Type} (items : Array Item) (item : Item) (rest : List Item) :
    items.push item ++ rest.toArray = items ++ (item :: rest).toArray := by
  simp

theorem foldl_pushWord (operands : List UInt16) (builder : CodeBuilder) :
    operands.foldl pushWord builder = { builder with
      words := builder.words ++ operands.toArray
      locations := builder.locations ++ (operands.map fun _ => builder.location).toArray } := by
  induction operands generalizing builder with
  | nil => simp
  | cons operand rest ih =>
    rw [List.foldl_cons, ih]
    simp only [pushWord, push_append, List.map_cons]

/-- Emitting appends the opcode and the operands, all at the location in force. -/
theorem emit_eq (builder : CodeBuilder) (word : UInt16) (operands : List UInt16) :
    builder.emit word operands = (builder.offset, { builder with
      words := builder.words ++ (word :: operands).toArray
      locations := builder.locations ++
        ((word :: operands).map fun _ => builder.location).toArray }) := by
  rw [emit, foldl_pushWord]
  simp only [pushWord, push_append, List.map_cons]

end CodeBuilder

end Mustache
