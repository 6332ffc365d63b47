import Mustache.Proofs.CodeLayout

/-!
# Where code keeps a tree

The code generated from a tree has, from one offset to another, the instructions of the tree in
source order, and the tables that their operands index hold what the tree says. `Code.Lays` states
that of a finished block, whatever else the block contains.
-/

namespace Mustache

set_option autoImplicit false

namespace Code

/-- From `start` to `stop` the block looks up members one inside the other. -/
def Finds (code : Code) (start : Nat) : List String → Nat → Prop
  | [], stop => stop = start
  | name :: rest, stop => ∃ index next, code.names[index]? = some name ∧
      code.Holds start (.find index) next ∧ code.Finds next rest stop

/-- From `start` to `stop` the block looks up a path. -/
def Resolves (code : Code) (start : Nat) (path : Path) (stop : Nat) : Prop :=
  match path.segments with
  | [] => code.Holds start .fetchImplicit stop
  | first :: rest => ∃ index next, code.names[index]? = some first ∧
      code.Holds start (.fetch index) next ∧ code.Finds next rest stop

/-- The location that errors of a tag at `position` are blamed on. -/
def PlacedAt (code : Code) (offset : Nat) (position : Position) : Prop :=
  code.location? offset = some ⟨position.lineNumber, position.columnNumber⟩

mutual

/-- From `start` to `stop` the block has the instructions of a tree. -/
def Lays (code : Code) (start : Nat) (node : Node) (stop : Nat) : Prop :=
  match node with
  | .sequence children => LaysAll code start children stop
  | .text content => (content = "" ∧ stop = start) ∨
      ∃ index, code.constants[index]? = some content ∧ code.Holds start (.text index) stop
  | .escaped path _ => ∃ tag, code.Resolves start path tag ∧ code.Holds tag .escapedTag stop
  | .unescaped path _ => ∃ tag, code.Resolves start path tag ∧ code.Holds tag .unescapedTag stop
  | .block path body raw pair position => ∃ tag index entry child last,
      code.Resolves start path tag ∧ code.PlacedAt tag position ∧
      code.Holds tag (.block index) stop ∧ code.sections[index]? = some ⟨entry, raw, pair⟩ ∧
      code.children[entry]? = some child ∧ LaysAll child 0 body last ∧
      child.Holds last .halt (last + 1)
  | .inverted path body position => ∃ tag index child last,
      code.Resolves start path tag ∧ code.PlacedAt tag position ∧
      code.Holds tag (.inverted index) stop ∧
      code.children[index]? = some child ∧ LaysAll child 0 body last ∧
      child.Holds last .halt (last + 1)
  | .partialTag name indentation position => ∃ nameIndex indentationIndex,
      code.PlacedAt start position ∧
      code.Holds start (.partialTag nameIndex indentationIndex) stop ∧
      code.constants[nameIndex]? = some name ∧ code.constants[indentationIndex]? = some indentation
  | .comment _ _ => stop = start
  | .delimiters _ _ => stop = start

/-- From `start` to `stop` the block has the instructions of trees in order. -/
def LaysAll (code : Code) (start : Nat) (nodes : List Node) (stop : Nat) : Prop :=
  match nodes with
  | [] => stop = start
  | first :: rest => ∃ next, Lays code start first next ∧ LaysAll code next rest stop

end

end Code

namespace Compiler

def code (compiler : Compiler) : Code := compiler.builder.toCode

def offset (compiler : Compiler) : Nat := compiler.builder.offset

/-- Both pools are faithful and every word has a location. -/
structure Sound (compiler : Compiler) : Prop where
  constants : compiler.builder.constants.Faithful
  names : compiler.builder.names.Faithful
  locations : compiler.builder.locations.size = compiler.builder.words.size

/-- `next` has everything that `first` has, and is sound if `first` is. -/
structure Extends (first next : Compiler) : Prop where
  begins : first.code.Begins next.code
  sound : first.Sound → next.Sound

theorem Extends.refl (compiler : Compiler) : compiler.Extends compiler :=
  ⟨Code.Begins.refl _, id⟩

theorem Extends.trans {first second third : Compiler} (left : first.Extends second)
    (right : second.Extends third) : first.Extends third :=
  ⟨left.begins.trans right.begins, right.sound ∘ left.sound⟩

theorem sound_start (name : String) : (Compiler.start name).Sound :=
  ⟨Pool.faithful_empty, Pool.faithful_empty, rfl⟩

theorem extends_moveTo (compiler : Compiler) (position : Position) :
    compiler.Extends (compiler.moveTo position) :=
  ⟨Code.Begins.refl _, fun sound => ⟨sound.constants, sound.names, sound.locations⟩⟩

theorem extends_emit (compiler : Compiler) (opcode : Opcode) (operands : List UInt16) :
    compiler.Extends (compiler.emit opcode operands) := by
  rw [emit, CodeBuilder.emit_eq]
  constructor
  · exact ⟨by simp [code, CodeBuilder.toCode], List.prefix_rfl, List.prefix_rfl, List.prefix_rfl,
      List.prefix_rfl, by simp [code, CodeBuilder.toCode]⟩
  · intro sound
    exact ⟨sound.constants, sound.names, by simp [sound.locations]⟩

/-- The words of an instruction stand where it was emitted. -/
theorem drop_emit {compiler : Compiler} {opcode : Opcode} {operands : List UInt16} {whole : Code}
    (begins : (compiler.emit opcode operands).code.Begins whole) :
    whole.words.toList.drop compiler.offset = opcode.word :: (operands ++
      whole.words.toList.drop (compiler.offset + (operands.length + 1))) := by
  obtain ⟨rest, split⟩ := begins.words
  rw [emit, CodeBuilder.emit_eq] at split
  have written : whole.words.toList =
      compiler.builder.words.toList ++ (opcode.word :: operands) ++ rest := by
    rw [← split]
    simp [code, CodeBuilder.toCode]
  have before : compiler.builder.words.toList.length = compiler.offset := Array.length_toList
  have through : (compiler.builder.words.toList ++ (opcode.word :: operands)).length =
      compiler.offset + (operands.length + 1) := by
    rw [List.length_append, before, List.length_cons]
  rw [written, List.drop_left' through, List.append_assoc, List.drop_left' before]
  rfl

/-- The words of an instruction are placed at the location in force. -/
theorem location_emit {compiler : Compiler} {opcode : Opcode} {operands : List UInt16}
    {whole : Code} (sound : compiler.Sound)
    (begins : (compiler.emit opcode operands).code.Begins whole) :
    whole.location? compiler.offset = some compiler.builder.location := by
  apply Code.getElem?_of_prefix begins.locations
  rw [emit, CodeBuilder.emit_eq]
  simp [code, CodeBuilder.toCode, offset, CodeBuilder.offset, ← sound.locations]

/-- An index that fits an operand is read back from it. -/
theorem toNat_of_operand {position : Position} {pool : PoolKind} {index : Nat} {word : UInt16}
    (fits : operand position pool index = .ok word) : word.toNat = index := by
  unfold operand at fits
  split at fits
  · rename_i small
    cases fits
    exact UInt16.toNat_ofNat_of_lt small
  · cases fits

theorem map_eq_ok {Error Result Other : Type} {outcome : Except Error Result}
    {f : Result → Other} {result : Other} (mapped : outcome.map f = .ok result) :
    ∃ first, outcome = .ok first ∧ f first = result := by
  cases outcome with
  | error reason => cases mapped
  | ok first => exact ⟨first, rfl, Except.ok.inj mapped⟩

/-- What adding a text constant does. -/
structure AddsConstant (compiler : Compiler) (text : String) (word : UInt16) (next : Compiler) :
    Prop where
  extends_next : compiler.Extends next
  offset_next : next.offset = compiler.offset
  location_next : next.builder.location = compiler.builder.location
  found : compiler.Sound → next.code.constants[word.toNat]? = some text

theorem constant_inv {compiler : Compiler} {text : String} {added : UInt16 × Compiler}
    (compiled : compiler.constant text = .ok added) :
    AddsConstant compiler text added.1 added.2 := by
  obtain ⟨word, fits, rfl⟩ := map_eq_ok compiled
  have same := toNat_of_operand fits
  exact {
    extends_next := {
      begins := ⟨List.prefix_rfl, Pool.prefix_intern _ _, List.prefix_rfl, List.prefix_rfl,
        List.prefix_rfl, List.prefix_rfl⟩
      sound := fun sound =>
        ⟨Pool.faithful_intern sound.constants text, sound.names, sound.locations⟩ }
    offset_next := rfl
    location_next := rfl
    found := fun sound => by
      rw [same]
      exact Pool.getElem?_intern sound.constants text }

theorem extends_addName (compiler : Compiler) (name : String) :
    compiler.Extends ⟨(compiler.builder.addName name).2, compiler.position⟩ :=
  ⟨⟨List.prefix_rfl, List.prefix_rfl, Pool.prefix_intern _ _, List.prefix_rfl, List.prefix_rfl,
    List.prefix_rfl⟩,
    fun sound => ⟨sound.constants, Pool.faithful_intern sound.names name, sound.locations⟩⟩

/-- What looking up a name does: the name is in the pool, and the instruction follows. -/
theorem lookUp_inv {compiler next : Compiler} {opcode : Opcode} {name : String}
    (compiled : compiler.lookUp opcode name = .ok next) :
    ∃ word, next = Compiler.emit ⟨(compiler.builder.addName name).2, compiler.position⟩
        opcode [word] ∧
      (compiler.Sound →
        (compiler.builder.addName name).2.toCode.names[word.toNat]? = some name) := by
  obtain ⟨word, fits, rfl⟩ := map_eq_ok compiled
  have same := toNat_of_operand fits
  refine ⟨word, rfl, ?_⟩
  intro sound
  rw [same]
  exact Pool.getElem?_intern sound.names name

theorem offset_emit (compiler : Compiler) (opcode : Opcode) (operands : List UInt16) :
    (compiler.emit opcode operands).offset = compiler.offset + (operands.length + 1) := by
  simp [emit, CodeBuilder.emit_eq, offset, CodeBuilder.offset]

theorem holds_emit {compiler : Compiler} {whole : Code} (opcode : Opcode)
    (instruction : Instruction)
    (known : ∀ frame : Frame, frame.operands? opcode = some (instruction, frame))
    (begins : (compiler.emit opcode []).code.Begins whole) :
    whole.Holds compiler.offset instruction (compiler.emit opcode []).offset := by
  rw [offset_emit]
  exact Code.holds_of_opcode opcode instruction known (drop_emit begins)

theorem holds_emit_operand {compiler : Compiler} {whole : Code} {operand : UInt16}
    (opcode : Opcode) (instruction : Nat → Instruction)
    (known : ∀ frame : Frame, frame.operands? opcode =
      frame.operand?.map fun read => (instruction read.1, read.2))
    (begins : (compiler.emit opcode [operand]).code.Begins whole) :
    whole.Holds compiler.offset (instruction operand.toNat)
      (compiler.emit opcode [operand]).offset := by
  rw [offset_emit]
  exact Code.holds_of_operand opcode instruction known (drop_emit begins)

/-- `next` comes from `compiler` by emitting what `layout` describes, and every block that begins
like `next` has it. -/
structure Realizes (compiler next : Compiler) (layout : Code → Nat → Nat → Prop) : Prop where
  extends_next : compiler.Extends next
  lays : compiler.Sound → ∀ whole : Code, next.code.Begins whole →
    layout whole compiler.offset next.offset

theorem Realizes.trans {first second third : Compiler} {left right : Code → Nat → Nat → Prop}
    (before : first.Realizes second left) (after : second.Realizes third right) :
    first.Realizes third fun whole start stop =>
      ∃ middle, left whole start middle ∧ right whole middle stop where
  extends_next := before.extends_next.trans after.extends_next
  lays := by
    intro sound whole begins
    exact ⟨second.offset, before.lays sound whole (after.extends_next.begins.trans begins),
      after.lays (before.extends_next.sound sound) whole begins⟩

theorem Realizes.mono {compiler next : Compiler} {layout weaker : Code → Nat → Nat → Prop}
    (realizes : compiler.Realizes next layout)
    (implied : ∀ whole start stop, layout whole start stop → weaker whole start stop) :
    compiler.Realizes next weaker :=
  ⟨realizes.extends_next, fun sound whole begins =>
    implied _ _ _ (realizes.lays sound whole begins)⟩

theorem Realizes.refl (compiler : Compiler) :
    compiler.Realizes compiler fun _ start stop => stop = start :=
  ⟨Extends.refl compiler, fun _ _ _ => rfl⟩

theorem Realizes.of_moveTo {compiler next : Compiler} {layout : Code → Nat → Nat → Prop}
    {position : Position} (realizes : (compiler.moveTo position).Realizes next layout) :
    compiler.Realizes next layout :=
  ⟨(extends_moveTo compiler position).trans realizes.extends_next, fun sound whole begins =>
    realizes.lays ((extends_moveTo compiler position).sound sound) whole begins⟩

theorem realizes_emit (compiler : Compiler) (opcode : Opcode) (instruction : Instruction)
    (known : ∀ frame : Frame, frame.operands? opcode = some (instruction, frame)) :
    compiler.Realizes (compiler.emit opcode []) fun whole start stop =>
      whole.Holds start instruction stop :=
  ⟨extends_emit compiler opcode [], fun _ _ begins => holds_emit opcode instruction known begins⟩

theorem realizes_lookUp {compiler next : Compiler} {opcode : Opcode} {name : String}
    (instruction : Nat → Instruction)
    (known : ∀ frame : Frame, frame.operands? opcode =
      frame.operand?.map fun read => (instruction read.1, read.2))
    (compiled : compiler.lookUp opcode name = .ok next) :
    compiler.Realizes next fun whole start stop => ∃ index, whole.names[index]? = some name ∧
      whole.Holds start (instruction index) stop := by
  obtain ⟨word, rfl, found⟩ := lookUp_inv compiled
  have emitted := extends_emit ⟨(compiler.builder.addName name).2, compiler.position⟩ opcode [word]
  refine ⟨(extends_addName compiler name).trans emitted, ?_⟩
  intro sound whole begins
  have inside := emitted.begins.trans begins
  have holds := holds_emit_operand opcode instruction known begins
  exact ⟨word.toNat, Code.getElem?_of_prefix inside.names (found sound), holds⟩

theorem realizes_findAll {names : List String} {compiler next : Compiler}
    (compiled : compiler.findAll names = .ok next) :
    compiler.Realizes next fun whole start stop => whole.Finds start names stop := by
  induction names generalizing compiler with
  | nil =>
    cases compiled
    exact Realizes.refl _
  | cons name rest ih =>
    rw [findAll] at compiled
    split at compiled
    · cases compiled
    · rename_i middle found
      have looked := realizes_lookUp Instruction.find (fun _ => rfl) found
      refine (looked.trans (ih compiled)).mono ?_
      rintro whole start stop ⟨next, ⟨index, known, holds⟩, finds⟩
      exact ⟨index, next, known, holds, finds⟩

theorem realizes_path {compiler next : Compiler} {path : Path}
    (compiled : compiler.path path = .ok next) :
    compiler.Realizes next fun whole start stop => whole.Resolves start path stop := by
  obtain ⟨segments⟩ := path
  unfold Code.Resolves
  unfold Compiler.path at compiled
  cases segments with
  | nil =>
    cases compiled
    exact realizes_emit compiler .fetchImplicit .fetchImplicit fun _ => rfl
  | cons first rest =>
    dsimp only at compiled ⊢
    split at compiled
    · cases compiled
    · rename_i middle found
      have looked := realizes_lookUp Instruction.fetch (fun _ => rfl) found
      refine (looked.trans (realizes_findAll compiled)).mono ?_
      rintro whole start stop ⟨next, ⟨index, known, holds⟩, finds⟩
      exact ⟨index, next, known, holds, finds⟩

theorem realizes_valueTag {compiler next : Compiler} {opcode : Opcode} {path : Path}
    {position : Position} (instruction : Instruction)
    (known : ∀ frame : Frame, frame.operands? opcode = some (instruction, frame))
    (compiled : compiler.valueTag opcode path position = .ok next) :
    compiler.Realizes next fun whole start stop =>
      ∃ tag, whole.Resolves start path tag ∧ whole.Holds tag instruction stop := by
  obtain ⟨middle, found, rfl⟩ := map_eq_ok compiled
  exact ((realizes_path found).trans (realizes_emit middle opcode instruction known)).of_moveTo

theorem realizes_text {compiler next : Compiler} {content : String}
    (compiled : compiler.text content = .ok next) :
    compiler.Realizes next fun whole start stop => whole.Lays start (.text content) stop := by
  unfold Code.Lays
  unfold Compiler.text at compiled
  split at compiled
  · rename_i empty
    cases compiled
    refine (Realizes.refl _).mono ?_
    intro whole start stop same
    exact .inl ⟨by simpa using empty, same⟩
  · obtain ⟨added, kept, rfl⟩ := map_eq_ok compiled
    have adds := constant_inv kept
    have grown := extends_emit added.2 .text [added.1]
    refine ⟨adds.extends_next.trans grown, ?_⟩
    intro sound whole begins
    have inside := grown.begins.trans begins
    refine .inr ⟨added.1.toNat, Code.getElem?_of_prefix inside.constants (adds.found sound), ?_⟩
    rw [← adds.offset_next]
    exact holds_emit_operand .text Instruction.text (fun _ => rfl) begins

theorem realizes_partialTag {compiler next : Compiler} {name indentation : String}
    {position : Position} (compiled : compiler.partialTag name indentation position = .ok next) :
    compiler.Realizes next fun whole start stop =>
      whole.Lays start (.partialTag name indentation position) stop := by
  unfold Code.Lays
  unfold Compiler.partialTag at compiled
  split at compiled
  · cases compiled
  · rename_i named found
    obtain ⟨indented, kept, rfl⟩ := map_eq_ok compiled
    have addsName := constant_inv found
    have addsIndentation := constant_inv kept
    have grown := extends_emit indented.2 .partialTag [named.1, indented.1]
    refine Realizes.of_moveTo ⟨(addsName.extends_next.trans addsIndentation.extends_next).trans
      grown, ?_⟩
    intro sound whole begins
    have soundName := addsName.extends_next.sound sound
    have inside := grown.begins.trans begins
    have offset : indented.2.offset = (compiler.moveTo position).offset :=
      addsIndentation.offset_next.trans addsName.offset_next
    have placed := location_emit (addsIndentation.extends_next.sound soundName) begins
    rw [addsIndentation.location_next, addsName.location_next] at placed
    rw [← offset]
    refine ⟨named.1.toNat, indented.1.toNat, placed, ?_, ?_, ?_⟩
    · rw [offset_emit]
      exact Code.holds_of_operands (drop_emit begins)
    · exact Code.getElem?_of_prefix (addsIndentation.extends_next.begins.trans inside).constants
        (addsName.found sound)
    · exact Code.getElem?_of_prefix inside.constants (addsIndentation.found soundName)

/-- A block whose last instruction ends it lays the nodes that were compiled into it. -/
def LaysBody (code : Code) (nodes : List Node) : Prop :=
  ∃ last, code.LaysAll 0 nodes last ∧ code.Holds last .halt (last + 1)

theorem laysBody_finish {start next : Compiler} {nodes : List Node}
    (fresh : start.Sound) (first : start.offset = 0)
    (realizes : start.Realizes next fun whole begin stop => whole.LaysAll begin nodes stop) :
    LaysBody next.finish nodes := by
  have begins := Code.Begins.refl (next.emit .halt []).code
  refine ⟨next.offset, ?_, ?_⟩
  · rw [← first]
    exact realizes.lays fresh _ ((extends_emit next .halt []).begins.trans begins)
  · have holds := holds_emit .halt .halt (fun _ => rfl) begins
    rwa [offset_emit] at holds

theorem extends_addChild (compiler : Compiler) (child : Code) :
    compiler.Extends ⟨(compiler.builder.addChild child).2, compiler.position⟩ :=
  ⟨⟨List.prefix_rfl, List.prefix_rfl, List.prefix_rfl, List.prefix_rfl,
    by simp [code, CodeBuilder.toCode, CodeBuilder.addChild], List.prefix_rfl⟩,
    fun sound => ⟨sound.constants, sound.names, sound.locations⟩⟩

theorem extends_addSection (compiler : Compiler) (entry : SectionEntry) :
    compiler.Extends ⟨(compiler.builder.addSection entry).2, compiler.position⟩ :=
  ⟨⟨List.prefix_rfl, List.prefix_rfl, List.prefix_rfl,
    by simp [code, CodeBuilder.toCode, CodeBuilder.addSection], List.prefix_rfl, List.prefix_rfl⟩,
    fun sound => ⟨sound.constants, sound.names, sound.locations⟩⟩

/-- An instruction emitted right after turning to its tag is placed at the tag. -/
theorem placedAt_emit {compiler : Compiler} {position : Position} {opcode : Opcode}
    {operands : List UInt16} {whole : Code} (sound : compiler.Sound)
    (begins : ((compiler.moveTo position).emit opcode operands).code.Begins whole) :
    whole.PlacedAt compiler.offset position :=
  location_emit ((extends_moveTo compiler position).sound sound) begins

theorem realizes_enterBlock {compiler next : Compiler} {body : Code} {raw : String}
    {pair : Delimiters} {position : Position}
    (compiled : compiler.enterBlock body raw pair position = .ok next) :
    compiler.Realizes next fun whole start stop => ∃ index,
      whole.PlacedAt start position ∧ whole.Holds start (.block index) stop ∧
      whole.sections[index]? = some ⟨compiler.builder.children.size, raw, pair⟩ ∧
      whole.children[compiler.builder.children.size]? = some body := by
  unfold enterBlock at compiled
  dsimp only at compiled
  split at compiled
  · cases compiled
  · obtain ⟨index, fits, rfl⟩ := map_eq_ok compiled
    let child : Compiler := ⟨(compiler.builder.addChild body).2, compiler.position⟩
    let entry : SectionEntry := ⟨compiler.builder.children.size, raw, pair⟩
    let entered : Compiler := ⟨(child.builder.addSection entry).2, compiler.position⟩
    have grown := (extends_addChild compiler body).trans (extends_addSection child entry)
    have emitted := (extends_moveTo entered position).trans
      (extends_emit (entered.moveTo position) .block [index])
    refine ⟨grown.trans emitted, ?_⟩
    intro sound whole begins
    have inside := emitted.begins.trans begins
    refine ⟨index.toNat, ?_, ?_, ?_, ?_⟩
    · change whole.PlacedAt entered.offset position
      exact placedAt_emit (grown.sound sound) begins
    · change whole.Holds (entered.moveTo position).offset _ _
      exact holds_emit_operand .block Instruction.block (fun _ => rfl) begins
    · rw [toNat_of_operand fits]
      exact Code.getElem?_of_prefix inside.sections Array.getElem?_push_size
    · exact Code.getElem?_of_prefix ((extends_addSection child entry).begins.trans inside).children
        Array.getElem?_push_size

theorem realizes_enterInverted {compiler next : Compiler} {body : Code} {position : Position}
    (compiled : compiler.enterInverted body position = .ok next) :
    compiler.Realizes next fun whole start stop => whole.PlacedAt start position ∧
      whole.Holds start (.inverted compiler.builder.children.size) stop ∧
      whole.children[compiler.builder.children.size]? = some body := by
  obtain ⟨index, fits, rfl⟩ := map_eq_ok compiled
  let entered : Compiler := ⟨(compiler.builder.addChild body).2, compiler.position⟩
  have grown := extends_addChild compiler body
  have emitted := (extends_moveTo entered position).trans
    (extends_emit (entered.moveTo position) .inverted [index])
  refine ⟨grown.trans emitted, ?_⟩
  intro sound whole begins
  have inside := emitted.begins.trans begins
  refine ⟨?_, ?_, ?_⟩
  · change whole.PlacedAt entered.offset position
    exact placedAt_emit (grown.sound sound) begins
  · change whole.Holds (entered.moveTo position).offset _ _
    have same : index.toNat = compiler.builder.children.size := toNat_of_operand fits
    rw [← same]
    exact holds_emit_operand .inverted Instruction.inverted (fun _ => rfl) begins
  · exact Code.getElem?_of_prefix inside.children Array.getElem?_push_size

mutual

/-- Compiling a node lays the node. -/
theorem realizes_node {compiler next : Compiler} (node : Node)
    (compiled : compiler.node node = .ok next) :
    compiler.Realizes next fun whole start stop => whole.Lays start node stop := by
  cases node with
  | sequence children =>
    rw [Compiler.node] at compiled
    exact (realizes_nodes children compiled).mono fun _ _ _ lays => by rwa [Code.Lays]
  | text content => exact realizes_text (by rwa [Compiler.node] at compiled)
  | escaped path position =>
    rw [Compiler.node] at compiled
    exact (realizes_valueTag .escapedTag (fun _ => rfl) compiled).mono
      fun _ _ _ lays => by rwa [Code.Lays]
  | unescaped path position =>
    rw [Compiler.node] at compiled
    exact (realizes_valueTag .unescapedTag (fun _ => rfl) compiled).mono
      fun _ _ _ lays => by rwa [Code.Lays]
  | block path body raw pair position =>
    rw [Compiler.node] at compiled
    split at compiled
    · cases compiled
    · rename_i found resolved
      split at compiled
      · cases compiled
      · rename_i inner built
        have lays := laysBody_finish (sound_start "") rfl (realizes_nodes body built)
        have entered := (realizes_path resolved).of_moveTo.trans (realizes_enterBlock compiled)
        refine entered.mono ?_
        rintro whole start stop ⟨tag, resolves, index, placed, holds, known, child⟩
        obtain ⟨last, nodes, halt⟩ := lays
        rw [Code.Lays]
        exact ⟨tag, index, _, inner.finish, last, resolves, placed, holds, known, child, nodes,
          halt⟩
  | inverted path body position =>
    rw [Compiler.node] at compiled
    split at compiled
    · cases compiled
    · rename_i found resolved
      split at compiled
      · cases compiled
      · rename_i inner built
        have lays := laysBody_finish (sound_start "") rfl (realizes_nodes body built)
        have entered := (realizes_path resolved).of_moveTo.trans (realizes_enterInverted compiled)
        refine entered.mono ?_
        rintro whole start stop ⟨tag, resolves, placed, holds, child⟩
        obtain ⟨last, nodes, halt⟩ := lays
        rw [Code.Lays]
        exact ⟨tag, _, inner.finish, last, resolves, placed, holds, child, nodes, halt⟩
  | partialTag name indentation position =>
    exact realizes_partialTag (by rwa [Compiler.node] at compiled)
  | comment content position =>
    rw [Compiler.node] at compiled
    cases compiled
    exact (Realizes.refl _).mono fun _ _ _ same => by rwa [Code.Lays]
  | delimiters pair position =>
    rw [Compiler.node] at compiled
    cases compiled
    exact (Realizes.refl _).mono fun _ _ _ same => by rwa [Code.Lays]

theorem realizes_nodes {compiler next : Compiler} (nodes : List Node)
    (compiled : compiler.nodes nodes = .ok next) :
    compiler.Realizes next fun whole start stop => whole.LaysAll start nodes stop := by
  cases nodes with
  | nil =>
    rw [Compiler.nodes] at compiled
    cases compiled
    exact (Realizes.refl _).mono fun _ _ _ same => by rwa [Code.LaysAll]
  | cons first rest =>
    rw [Compiler.nodes] at compiled
    split at compiled
    · cases compiled
    · rename_i middle built
      refine ((realizes_node first built).trans (realizes_nodes rest compiled)).mono ?_
      rintro whole start stop ⟨middle, lays, others⟩
      rw [Code.LaysAll]
      exact ⟨middle, lays, others⟩

end

end Compiler

/-- The code generated from a tree lays the tree from its first word to its halt. -/
theorem Node.laysBody_toCode {node : Node} {name : String} {code : Code}
    (generated : node.toCode name = .ok code) : Compiler.LaysBody code [node] := by
  obtain ⟨next, compiled, rfl⟩ := Compiler.map_eq_ok generated
  refine Compiler.laysBody_finish (Compiler.sound_start name) rfl ?_
  refine (Compiler.realizes_node node compiled).mono ?_
  intro whole start stop lays
  rw [Code.LaysAll]
  exact ⟨stop, lays, by rw [Code.LaysAll]⟩

end Mustache
