import Mustache.Proofs.Listings
import Mustache.Proofs.NamesInTrees
import Mustache.Proofs.Requests

/-!
# The listing of generated code

Compiling emits instructions one after another, each with its operands in the pools, and adds one
child for each section that it enters. So generated code has one line for each instruction, in every
block below it, and the names on these lines are names of tags.
-/

namespace Mustache

set_option autoImplicit false

open Code (Line)

namespace Code

/-- From `start` to `stop` the block has unbroken lines, among them those of its children from the
`first` up to the `last`. -/
def Listed (first last : Nat) (code : Code) (start stop : Nat) : Prop :=
  ∀ depth, ∃ front : List Line, (∀ line ∈ front, '\n' ∉ line.content.toList) ∧
    ∀ back, (Frame.atOffset code stop).ListedAs depth last back →
      (Frame.atOffset code start).ListedAs depth first (front ++ back)

/-- The block has unbroken lines from its beginning to its halt. -/
def ListedBody (code : Code) : Prop :=
  ∀ depth, ∃ lines : List Line, (∀ line ∈ lines, '\n' ∉ line.content.toList) ∧
    (Frame.start code).ListedAs depth 0 lines

namespace Listed

variable {code : Code} {first middle last start next stop count : Nat}

theorem refl : code.Listed count count start start :=
  fun _ => ⟨[], by simp, fun _ listed => listed⟩

theorem trans (front : code.Listed first middle start next)
    (back : code.Listed middle last next stop) : code.Listed first last start stop := by
  intro depth
  obtain ⟨early, unbrokenEarly, listedEarly⟩ := front depth
  obtain ⟨late, unbrokenLate, listedLate⟩ := back depth
  refine ⟨early ++ late, ?_, ?_⟩
  · intro line inside
    rcases List.mem_append.1 inside with here | there
    · exact unbrokenEarly line here
    · exact unbrokenLate line there
  · intro rest listed
    rw [List.append_assoc]
    exact listedEarly _ (listedLate rest listed)

/-- One instruction, whose line is its own. -/
theorem of_flat {instruction : Instruction} {content : String}
    (holds : code.Holds start instruction stop) (flat : instruction.isFlat = true)
    (said : (Frame.atOffset code start).content? instruction = some content)
    (unbroken : '\n' ∉ content.toList) : code.Listed count count start stop := by
  intro depth
  refine ⟨[⟨depth, start, content⟩], ?_, fun back listed => .flat holds flat said listed⟩
  intro line inside
  rwa [List.mem_singleton.1 inside]

/-- One instruction and the body that it enters. -/
theorem of_enter {instruction : Instruction} {content : String} {body : Code}
    (holds : code.Holds start instruction stop)
    (enters : (Frame.atOffset code start).body? instruction = some count)
    (found : code.children[count]? = some body)
    (said : (Frame.atOffset code start).content? instruction = some content)
    (unbroken : '\n' ∉ content.toList) (listed : body.ListedBody) :
    code.Listed count (count + 1) start stop := by
  intro depth
  obtain ⟨inner, unbrokenInner, listedInner⟩ := listed (depth + 1)
  refine ⟨⟨depth, start, content⟩ :: inner, ?_, fun back later =>
    .enter holds enters found said listedInner later⟩
  intro line inside
  rcases List.mem_cons.1 inside with rfl | below
  · exact unbroken
  · exact unbrokenInner line below

theorem of_text {index : Nat} {text : String} (known : code.constants[index]? = some text)
    (holds : code.Holds start (.text index) stop) : code.Listed count count start stop := by
  apply of_flat holds rfl (congrArg (Option.map _) known)
  simp [Opcode.name]

theorem of_finds {names : List String} (unbroken : ∀ name ∈ names, '\n' ∉ name.toList)
    (finds : code.Finds start names stop) : code.Listed count count start stop := by
  induction names generalizing start with
  | nil =>
    cases finds
    exact refl
  | cons name names ih =>
    obtain ⟨index, middle, known, holds, rest⟩ := finds
    have here := unbroken name List.mem_cons_self
    refine trans (of_flat holds rfl (congrArg (Option.map _) known)
      ?_) (ih (fun other inside => unbroken other (List.mem_cons_of_mem _ inside)) rest)
    simp [Opcode.name, here]

theorem of_resolves {path : Path} (unbroken : ∀ name ∈ path.segments, '\n' ∉ name.toList)
    (resolves : code.Resolves start path stop) : code.Listed count count start stop := by
  obtain ⟨segments⟩ := path
  unfold Resolves at resolves
  cases segments with
  | nil => exact of_flat resolves rfl rfl (by decide)
  | cons name names =>
    obtain ⟨index, middle, known, holds, finds⟩ := resolves
    have here := unbroken name List.mem_cons_self
    refine trans (of_flat holds rfl (congrArg (Option.map _) known)
      ?_) (of_finds (fun other inside => unbroken other (List.mem_cons_of_mem _ inside)) finds)
    simp [Opcode.name, here]

theorem of_partialTag {index indentation : Nat} {name blanks : String}
    (holds : code.Holds start (.partialTag index indentation) stop)
    (named : code.constants[index]? = some name)
    (indented : code.constants[indentation]? = some blanks) :
    code.Listed count count start stop := by
  apply of_flat holds rfl (by
    change (code.constants[index]?.bind _) = _
    rw [named]
    change (code.constants[indentation]?.map _) = _
    rw [indented]
    rfl)
  simp [Opcode.name]

theorem of_block {index : Nat} {entry : SectionEntry} {body : Code}
    (holds : code.Holds start (.block index) stop)
    (known : code.sections[index]? = some entry) (found : code.children[entry.body]? = some body)
    (listed : body.ListedBody) : code.Listed entry.body (entry.body + 1) start stop := by
  apply of_enter holds (congrArg (Option.map SectionEntry.body) known) found rfl ?_ listed
  simp [Opcode.name]

theorem of_inverted {index : Nat} {body : Code} (holds : code.Holds start (.inverted index) stop)
    (found : code.children[index]? = some body) (listed : body.ListedBody) :
    code.Listed index (index + 1) start stop := by
  apply of_enter holds rfl found rfl ?_ listed
  simp [Opcode.name]

end Listed

end Code

namespace Compiler

/-- What has been compiled is listed with the children that it has added. -/
def Lists (compiler next : Compiler) : Prop :=
  compiler.Realizes next fun whole start stop =>
    whole.Listed compiler.builder.children.size next.builder.children.size start stop

theorem Lists.trans {first second third : Compiler} (front : first.Lists second)
    (back : second.Lists third) : first.Lists third :=
  (Realizes.trans front back).mono fun _ _ _ ⟨_, listed, listedBack⟩ => listed.trans listedBack

theorem Lists.of_realizes {compiler next : Compiler} {layout : Code → Nat → Nat → Prop}
    (realizes : compiler.Realizes next layout)
    (same : next.builder.children.size = compiler.builder.children.size)
    (listed : ∀ whole start stop, layout whole start stop →
      whole.Listed compiler.builder.children.size compiler.builder.children.size start stop) :
    compiler.Lists next := by
  unfold Lists
  rw [same]
  exact realizes.mono listed

theorem Grants.size_children {compiler next : Compiler} {requests : List Request}
    (grants : compiler.Grants next requests) : next.builder.children.size =
      compiler.builder.children.size + (Request.bodies requests).length := by
  obtain ⟨added, grown, matched⟩ := grants.children
  rw [← Array.length_toList, grown, List.length_append, Array.length_toList, matched.length_eq]

variable {compiler next : Compiler}

theorem grants_of_ok {requests : List Request} {result : Except Overflow Compiler}
    (answers : compiler.Answers requests result) (compiled : result = .ok next) :
    compiler.Grants next requests := by
  rw [compiled] at answers
  exact answers

theorem lists_path (roomy : compiler.Roomy) {path : Path} {position : Position}
    (unbroken : ∀ name ∈ path.segments, '\n' ∉ name.toList)
    (compiled : (compiler.moveTo position).path path = .ok next) :
    compiler.Lists next ∧ next.Roomy := by
  have grants := grants_of_ok (answers_path ((sameTables_moveTo compiler position).roomy roomy) path)
    compiled
  refine ⟨?_, grants.roomy⟩
  apply Lists.of_realizes (realizes_path compiled).of_moveTo
  · rw [grants.size_children, Request.bodies_names]
    rfl
  · intro whole start stop resolves
    exact .of_resolves unbroken resolves

/-- A block whose nodes are listed is listed to its halt. -/
theorem listedBody_finish {start next : Compiler} (fresh : start.Sound) (first : start.offset = 0)
    (childless : start.builder.children.size = 0) (lists : start.Lists next) :
    next.finish.ListedBody := by
  intro depth
  have grown := extends_emit next .halt []
  have begins := Code.Begins.refl (next.emit .halt []).code
  have holds := holds_emit .halt .halt (fun _ => rfl) begins
  obtain ⟨front, unbroken, listed⟩ := lists.lays fresh _ (grown.begins.trans begins) depth
  rw [childless, first] at listed
  refine ⟨front ++ [⟨depth, next.offset, Opcode.halt.name⟩], ?_, ?_⟩
  · intro line inside
    rcases List.mem_append.1 inside with here | last
    · exact unbroken line here
    · rw [List.mem_singleton.1 last]
      change '\n' ∉ Opcode.halt.name.toList
      decide
  · have children : next.builder.children.size = next.finish.children.size :=
      congrArg Array.size (sameTables_emit next .halt []).children.symm
    have last : (Frame.atOffset next.finish (next.emit .halt []).offset).atEnd = true := by
      have size : (next.emit .halt []).offset = next.finish.words.toList.length :=
        Array.length_toList.symm
      unfold Frame.atEnd Frame.atOffset
      rw [size, List.drop_length]
      rfl
    apply listed
    rw [children]
    exact .halt holds last

theorem lists_valueTag (roomy : compiler.Roomy) {opcode : Opcode} {path : Path}
    {position : Position} {content : String} (instruction : Instruction)
    (known : ∀ frame : Frame, frame.operands? opcode = some (instruction, frame))
    (flat : instruction.isFlat = true)
    (said : ∀ frame : Frame, frame.content? instruction = some content)
    (short : '\n' ∉ content.toList) (unbroken : ∀ name ∈ path.segments, '\n' ∉ name.toList)
    (compiled : compiler.valueTag opcode path position = .ok next) : compiler.Lists next := by
  have grants := grants_of_ok (answers_valueTag roomy opcode path position) compiled
  apply Lists.of_realizes (realizes_valueTag instruction known compiled)
  · rw [grants.size_children, Request.bodies_names]
    rfl
  · rintro whole start stop ⟨tag, resolves, holds⟩
    exact (Code.Listed.of_resolves unbroken resolves).trans (.of_flat holds flat (said _) short)

theorem lists_enterBlock (roomy : compiler.Roomy) {body : List Node} {inner : Compiler}
    {raw : String} {pair : Delimiters} {position : Position}
    (built : (Compiler.start "").nodes body = .ok inner) (below : inner.finish.ListedBody)
    (compiled : compiler.enterBlock inner.finish raw pair position = .ok next) :
    compiler.Lists next := by
  have entered := grants_of_ok (answers_enterBlock roomy built raw pair position) compiled
  unfold Lists
  rw [entered.size_children]
  refine (realizes_enterBlock compiled).mono ?_
  rintro whole start stop ⟨index, -, holds, known, child⟩
  exact .of_block holds known child below

theorem lists_enterInverted (roomy : compiler.Roomy) {body : List Node} {inner : Compiler}
    {position : Position} (built : (Compiler.start "").nodes body = .ok inner)
    (below : inner.finish.ListedBody)
    (compiled : compiler.enterInverted inner.finish position = .ok next) :
    compiler.Lists next := by
  have entered := grants_of_ok (answers_enterInverted roomy built position) compiled
  unfold Lists
  rw [entered.size_children]
  refine (realizes_enterInverted compiled).mono ?_
  rintro whole start stop ⟨-, holds, child⟩
  exact .of_inverted holds child below

mutual

/-- Compiling a node whose names do not break a line lists the node. -/
theorem lists_node {compiler next : Compiler} (node : Node) (roomy : compiler.Roomy)
    (unbroken : ∀ name ∈ node.segments, '\n' ∉ name.toList)
    (compiled : compiler.node node = .ok next) : compiler.Lists next := by
  have grants := grants_of_ok (answers_node roomy node) compiled
  cases node with
  | sequence children =>
    rw [Compiler.node] at compiled
    rw [Node.segments] at unbroken
    exact lists_nodes children roomy unbroken compiled
  | text content =>
    rw [Compiler.node] at compiled
    have none : Request.bodies (Node.text content).requests = [] := by
      rw [Node.requests]
      split <;> rfl
    apply Lists.of_realizes (realizes_text compiled)
    · rw [grants.size_children, none]
      rfl
    · intro whole start stop lays
      rw [Code.Lays] at lays
      rcases lays with ⟨-, rfl⟩ | ⟨index, known, holds⟩
      · exact .refl
      · exact .of_text known holds
  | escaped path position =>
    rw [Compiler.node] at compiled
    rw [Node.segments] at unbroken
    exact lists_valueTag roomy .escapedTag (fun _ => rfl) rfl (fun _ => rfl)
      (by decide) unbroken compiled
  | unescaped path position =>
    rw [Compiler.node] at compiled
    rw [Node.segments] at unbroken
    exact lists_valueTag roomy .unescapedTag (fun _ => rfl) rfl (fun _ => rfl)
      (by decide) unbroken compiled
  | block path body raw pair position =>
    rw [Compiler.node] at compiled
    rw [Node.segments] at unbroken
    obtain ⟨unbrokenPath, unbrokenBody⟩ := List.forall_mem_append.1 unbroken
    split at compiled
    · cases compiled
    · rename_i found resolved
      split at compiled
      · cases compiled
      · rename_i inner built
        obtain ⟨front, roomyFound⟩ := lists_path roomy unbrokenPath resolved
        have below := lists_nodes body (roomy_start "") unbrokenBody built
        exact front.trans (lists_enterBlock roomyFound built
          (listedBody_finish (sound_start "") rfl rfl below) compiled)
  | inverted path body position =>
    rw [Compiler.node] at compiled
    rw [Node.segments] at unbroken
    obtain ⟨unbrokenPath, unbrokenBody⟩ := List.forall_mem_append.1 unbroken
    split at compiled
    · cases compiled
    · rename_i found resolved
      split at compiled
      · cases compiled
      · rename_i inner built
        obtain ⟨front, roomyFound⟩ := lists_path roomy unbrokenPath resolved
        have below := lists_nodes body (roomy_start "") unbrokenBody built
        exact front.trans (lists_enterInverted roomyFound built
          (listedBody_finish (sound_start "") rfl rfl below) compiled)
  | partialTag name indentation position =>
    rw [Compiler.node] at compiled
    apply Lists.of_realizes (realizes_partialTag compiled)
    · rw [grants.size_children, Node.requests]
      rfl
    · intro whole start stop lays
      rw [Code.Lays] at lays
      obtain ⟨index, padding, -, holds, named, indented⟩ := lays
      exact .of_partialTag holds named indented
  | comment content position =>
    rw [Compiler.node] at compiled
    cases compiled
    exact .of_realizes (Realizes.refl compiler) rfl fun _ _ _ same => same ▸ .refl
  | delimiters pair position =>
    rw [Compiler.node] at compiled
    cases compiled
    exact .of_realizes (Realizes.refl compiler) rfl fun _ _ _ same => same ▸ .refl

theorem lists_nodes {compiler next : Compiler} (nodes : List Node) (roomy : compiler.Roomy)
    (unbroken : ∀ name ∈ Node.segmentsAll nodes, '\n' ∉ name.toList)
    (compiled : compiler.nodes nodes = .ok next) : compiler.Lists next := by
  cases nodes with
  | nil =>
    rw [Compiler.nodes] at compiled
    cases compiled
    exact .of_realizes (Realizes.refl compiler) rfl fun _ _ _ same => same ▸ .refl
  | cons first rest =>
    rw [Compiler.nodes] at compiled
    rw [Node.segmentsAll] at unbroken
    obtain ⟨unbrokenFirst, unbrokenRest⟩ := List.forall_mem_append.1 unbroken
    split at compiled
    · cases compiled
    · rename_i middle built
      have grants := grants_of_ok (answers_node roomy first) built
      exact (lists_node first roomy unbrokenFirst built).trans
        (lists_nodes rest grants.roomy unbrokenRest compiled)

end

end Compiler

theorem Node.listedBody_toCode {node : Node} {name : String} {code : Code}
    (unbroken : ∀ segment ∈ node.segments, '\n' ∉ segment.toList)
    (generated : node.toCode name = .ok code) : code.ListedBody := by
  obtain ⟨next, compiled, rfl⟩ := Compiler.map_eq_ok generated
  exact Compiler.listedBody_finish (Compiler.sound_start name) rfl rfl
    (Compiler.lists_node node (Compiler.roomy_start name) unbroken compiled)

/-- The listing of a compiled template shows what a run of it reads: one line for each instruction,
with the offset at which a run reads its opcode, the operands that the run reads and the texts that
it finds for them, and the lines of each body behind the instruction that enters it. -/
theorem compile_listedAs (name : String) (delimiters : Delimiters) (source : String) (code : Code)
    (compiled : compile name delimiters source = .ok code) :
    (Frame.start code).ListedAs 0 0 code.lines ∧
      code.listing.toList.splitOn '\n' =
        code.lines.map (fun line => line.toText.toList) ++ [[]] := by
  unfold compile at compiled
  split at compiled
  · cases compiled
  · rename_i tree parsed
    cases generated : tree.toCode name with
    | error overflow =>
      rw [generated] at compiled
      cases compiled
    | ok built =>
      rw [generated] at compiled
      cases compiled
      have unbroken : ∀ segment ∈ tree.segments, '\n' ∉ segment.toList := by
        intro segment inside newline
        exact absurd (isNameChar_of_parse parsed inside _ newline) (by decide)
      obtain ⟨lines, oneLine, listed⟩ := Node.listedBody_toCode unbroken generated 0
      have shown : code.lines = lines := by
        have same := listed.linesFrom_eq []
        rw [List.append_nil] at same
        exact (congrArg List.reverse same).trans (List.reverse_reverse lines)
      rw [← shown] at listed oneLine
      exact ⟨listed, Code.splitOn_listing oneLine⟩

/-- The code of a section with a text in it. -/
def Code.nested : Code :=
  ⟨"main", #[20, 0, 30, 0, 1], #[], #["a"], #[⟨0, "b", .standard⟩],
    #[⟨"", #[10, 0, 1], #["b"], #[], #[], #[], #[⟨0, 0⟩, ⟨0, 0⟩, ⟨0, 0⟩]⟩],
    #[⟨1, 1⟩, ⟨1, 1⟩, ⟨1, 1⟩, ⟨1, 1⟩, ⟨1, 1⟩]⟩

theorem compile_listedAs_nested :
    compile "main" .standard "\x7b\x7b#a\x7d\x7db\x7b\x7b/a\x7d\x7d" = .ok Code.nested ∧
      (Frame.start Code.nested).ListedAs 0 0 Code.nested.lines ∧
      Code.nested.listing = "0000 Fetch 0 (a)\n0002 Section 0\n  0000 Text 0 (\x22b\x22)\n" ++
        "  0002 Halt\n0004 Halt\n" := by
  have compiled : compile "main" .standard "\x7b\x7b#a\x7d\x7db\x7b\x7b/a\x7d\x7d" =
      .ok Code.nested := by
    cbv
  refine ⟨compiled, (compile_listedAs _ _ _ _ compiled).1, ?_⟩
  cbv

end Mustache
