import Mathlib.Data.List.Nodup
import Mathlib.Data.List.Perm.Subperm
import Mustache.Proofs.NodeLayout

/-!
# What a block is asked to hold

While nodes are compiled, the tables of their block are asked to hold one thing after another: text
constants, names and the bodies of sections. A pool grows by the texts that it does not hold yet.
Either every request is granted, or compiling stops at the first that is refused, with the pool that
has no index left for it; the bodies of sections are compiled apart, and what stops them stops the
block around them.
-/

namespace Mustache

set_option autoImplicit false

namespace Pool

def internAll (pool : Pool) (texts : List String) : Pool :=
  texts.foldl (fun grown text => (grown.intern text).2) pool

theorem internAll_cons (pool : Pool) (text : String) (texts : List String) :
    pool.internAll (text :: texts) = (pool.intern text).2.internAll texts := rfl

theorem internAll_append (pool : Pool) (first second : List String) :
    pool.internAll (first ++ second) = (pool.internAll first).internAll second :=
  List.foldl_append

variable {pool : Pool}

/-- A text is there already, or it becomes the last item. -/
theorem intern_cases (faithful : pool.Faithful) (text : String) :
    (text ∈ pool.items ∧ (pool.intern text).2 = pool ∧ (pool.intern text).1 < pool.items.size) ∨
      ((pool.intern text).1 = pool.items.size ∧
        (pool.intern text).2.items = pool.items.push text) := by
  unfold intern
  split
  · rename_i index found
    have here := (faithful text index).1 found
    obtain ⟨bound, same⟩ := Array.getElem?_eq_some_iff.1 here
    exact .inl ⟨same ▸ Array.getElem_mem bound, rfl, bound⟩
  · exact .inr ⟨rfl, rfl⟩

theorem faithful_internAll (faithful : pool.Faithful) (texts : List String) :
    (pool.internAll texts).Faithful := by
  induction texts generalizing pool with
  | nil => exact faithful
  | cons text texts ih => exact ih (faithful_intern faithful text)

theorem size_le_intern (pool : Pool) (text : String) :
    pool.items.size ≤ (pool.intern text).2.items.size := by
  simpa using (prefix_intern pool text).length_le

theorem size_le_internAll (pool : Pool) (texts : List String) :
    pool.items.size ≤ (pool.internAll texts).items.size := by
  induction texts generalizing pool with
  | nil => exact Nat.le_refl _
  | cons text texts ih => exact Nat.le_trans (size_le_intern pool text) (ih _)

theorem mem_internAll (faithful : pool.Faithful) (texts : List String) (text : String) :
    text ∈ (pool.internAll texts).items ↔ text ∈ pool.items ∨ text ∈ texts := by
  induction texts generalizing pool with
  | nil => simp [internAll]
  | cons first texts ih =>
    rw [internAll_cons, ih (faithful_intern faithful first), List.mem_cons]
    rcases intern_cases faithful first with ⟨inside, same, -⟩ | ⟨-, pushed⟩
    · rw [same]
      constructor
      · rintro (old | later)
        · exact .inl old
        · exact .inr (.inr later)
      · rintro (old | rfl | later)
        · exact .inl old
        · exact .inl inside
        · exact .inr later
    · rw [pushed, Array.mem_push, or_assoc]

theorem nodup_items (faithful : pool.Faithful) : pool.items.toList.Nodup := by
  rw [List.nodup_iff_getElem?_ne_getElem?]
  intro first second before bound same
  rw [Array.length_toList] at bound
  have here : pool.items[second]? = some pool.items[second] := Array.getElem?_eq_getElem bound
  rw [Array.getElem?_toList, Array.getElem?_toList, here] at same
  have firstIndex := (faithful pool.items[second] first).2 same
  rw [(faithful pool.items[second] second).2 here] at firstIndex
  exact Nat.ne_of_gt before (Option.some.inj firstIndex)

theorem size_le_length (faithful : pool.Faithful) {texts : List String}
    (all : ∀ text ∈ pool.items, text ∈ texts) : pool.items.size ≤ texts.length := by
  have inside : pool.items.toList ⊆ texts := fun text found =>
    all text (Array.mem_toList_iff.1 found)
  have bound := (List.subperm_of_subset (nodup_items faithful) inside).length_le
  rwa [Array.length_toList] at bound

theorem length_le_size {texts : List String} (distinct : texts.Nodup)
    (all : ∀ text ∈ texts, text ∈ pool.items) : texts.length ≤ pool.items.size := by
  have inside : texts ⊆ pool.items.toList := fun text found =>
    Array.mem_toList_iff.2 (all text found)
  have bound := (List.subperm_of_subset distinct inside).length_le
  rwa [Array.length_toList] at bound

/-- A text has an index that fits exactly if all items have one after it is added. -/
theorem intern_lt_iff (faithful : pool.Faithful) (room : pool.items.size ≤ UInt16.size)
    (text : String) :
    (pool.intern text).1 < UInt16.size ↔ (pool.internAll [text]).items.size ≤ UInt16.size := by
  change _ ↔ (pool.intern text).2.items.size ≤ _
  rcases intern_cases faithful text with ⟨-, same, bound⟩ | ⟨last, pushed⟩
  · rw [same]
    exact ⟨fun _ => room, fun _ => Nat.lt_of_lt_of_le bound room⟩
  · rw [last, pushed, Array.size_push]
    exact Nat.succ_le_iff.symm

end Pool

/-- What a block can be asked to hold. -/
inductive Request where
  | constant (text : String)
  | name (segment : String)
  | body (nodes : List Node)

namespace Request

def constant? : Request → Option String
  | constant text => some text
  | name _ => none
  | body _ => none

def name? : Request → Option String
  | constant _ => none
  | name segment => some segment
  | body _ => none

def body? : Request → Option (List Node)
  | constant _ => none
  | name _ => none
  | body nodes => some nodes

/-- The text constants among the requests. -/
def constants (requests : List Request) : List String := requests.filterMap constant?

def names (requests : List Request) : List String := requests.filterMap name?

def bodies (requests : List Request) : List (List Node) := requests.filterMap body?

variable (first second : List Request)

theorem constants_append : constants (first ++ second) = constants first ++ constants second :=
  List.filterMap_append

theorem names_append : names (first ++ second) = names first ++ names second :=
  List.filterMap_append

theorem bodies_append : bodies (first ++ second) = bodies first ++ bodies second :=
  List.filterMap_append

theorem bodies_names (segments : List String) : bodies (segments.map .name) = [] := by
  induction segments with
  | nil => rfl
  | cons segment rest ih => exact ih

end Request

mutual

/-- The requests of a node, in the order in which they are made. The body of a section is asked for
after the path of the section; what is inside the body is asked of another block. -/
def Node.requests : Node → List Request
  | .sequence children => Node.requestsAll children
  | .text content => if content.isEmpty then [] else [.constant content]
  | .escaped path _ => path.segments.map .name
  | .unescaped path _ => path.segments.map .name
  | .block path body _ _ _ => path.segments.map .name ++ [.body body]
  | .inverted path body _ => path.segments.map .name ++ [.body body]
  | .partialTag name indentation _ => [.constant name, .constant indentation]
  | .comment _ _ => []
  | .delimiters _ _ => []

def Node.requestsAll : List Node → List Request
  | [] => []
  | first :: rest => first.requests ++ Node.requestsAll rest

end

namespace Compiler

/-- Every entry of every table has an index of 16 bits. -/
structure Roomy (compiler : Compiler) : Prop where
  constants : compiler.builder.constants.Faithful
  names : compiler.builder.names.Faithful
  constantCount : compiler.builder.constants.items.size ≤ UInt16.size
  nameCount : compiler.builder.names.items.size ≤ UInt16.size
  childCount : compiler.builder.children.size ≤ UInt16.size
  sectionCount : compiler.builder.sections.size ≤ compiler.builder.children.size

/-- Nothing but words, locations and the position may differ. -/
structure SameTables (compiler next : Compiler) : Prop where
  constants : next.builder.constants = compiler.builder.constants
  names : next.builder.names = compiler.builder.names
  children : next.builder.children = compiler.builder.children
  sections : next.builder.sections = compiler.builder.sections

/-- The block was compiled from the body of a section. -/
def BodyCode (child : Code) (body : List Node) : Prop :=
  ∃ inner, (Compiler.start "").nodes body = .ok inner ∧ inner.finish = child

/-- The tables have grown by the requests. -/
structure Grants (compiler next : Compiler) (requests : List Request) : Prop where
  constants : next.builder.constants =
    compiler.builder.constants.internAll (Request.constants requests)
  names : next.builder.names = compiler.builder.names.internAll (Request.names requests)
  children : ∃ added, next.builder.children.toList = compiler.builder.children.toList ++ added ∧
    List.Forall₂ BodyCode added (Request.bodies requests)
  roomy : next.Roomy

/-- The request cannot be granted, for want of an index into the pool. -/
inductive Refuses (compiler : Compiler) : Request → PoolKind → Prop where
  | constant {text : String} (full : ¬ (compiler.builder.constants.intern text).1 < UInt16.size) :
      Refuses compiler (.constant text) .textConstants
  | name {segment : String} (full : ¬ (compiler.builder.names.intern segment).1 < UInt16.size) :
      Refuses compiler (.name segment) .names
  /-- The body itself does not compile. -/
  | inner {body : List Node} {overflow : Overflow}
      (failed : (Compiler.start "").nodes body = .error overflow) :
      Refuses compiler (.body body) overflow.pool
  | body {body : List Node} {inner : Compiler}
      (compiled : (Compiler.start "").nodes body = .ok inner)
      (full : ¬ compiler.builder.children.size < UInt16.size) :
      Refuses compiler (.body body) .sectionBodies

/-- All requests are granted, or the result is the error of the first that is refused. -/
def Answers (compiler : Compiler) (requests : List Request) : Except Overflow Compiler → Prop
  | .ok next => compiler.Grants next requests
  | .error overflow => ∃ before request after middle, requests = before ++ request :: after ∧
      compiler.Grants middle before ∧ middle.Refuses request overflow.pool

theorem roomy_start (name : String) : (Compiler.start name).Roomy where
  constants := Pool.faithful_empty
  names := Pool.faithful_empty
  constantCount := Nat.zero_le _
  nameCount := Nat.zero_le _
  childCount := Nat.zero_le _
  sectionCount := Nat.le_refl _

theorem SameTables.refl (compiler : Compiler) : compiler.SameTables compiler :=
  ⟨rfl, rfl, rfl, rfl⟩

theorem sameTables_emit (compiler : Compiler) (opcode : Opcode) (operands : List UInt16) :
    compiler.SameTables (compiler.emit opcode operands) := by
  rw [emit, CodeBuilder.emit_eq]
  exact ⟨rfl, rfl, rfl, rfl⟩

theorem SameTables.roomy {compiler next : Compiler} (same : compiler.SameTables next)
    (roomy : compiler.Roomy) : next.Roomy := by
  obtain ⟨constants, names, children, sections⟩ := same
  constructor
  · rw [constants]
    exact roomy.constants
  · rw [names]
    exact roomy.names
  · rw [constants]
    exact roomy.constantCount
  · rw [names]
    exact roomy.nameCount
  · rw [children]
    exact roomy.childCount
  · rw [children, sections]
    exact roomy.sectionCount

theorem SameTables.grants {compiler next : Compiler} (same : compiler.SameTables next)
    (roomy : compiler.Roomy) : compiler.Grants next [] where
  constants := same.constants
  names := same.names
  children := ⟨[], by rw [same.children, List.append_nil], .nil⟩
  roomy := same.roomy roomy

theorem Grants.trans {first second third : Compiler} {left right : List Request}
    (front : first.Grants second left) (back : second.Grants third right) :
    first.Grants third (left ++ right) where
  constants := by
    rw [back.constants, front.constants, Request.constants_append, Pool.internAll_append]
  names := by
    rw [back.names, front.names, Request.names_append, Pool.internAll_append]
  children := by
    obtain ⟨added, children, compiled⟩ := front.children
    obtain ⟨more, childrenBack, compiledBack⟩ := back.children
    refine ⟨added ++ more, ?_, ?_⟩
    · rw [childrenBack, children, List.append_assoc]
    · rw [Request.bodies_append]
      exact List.rel_append compiled compiledBack
  roomy := back.roomy

theorem Grants.sameTables {compiler next last : Compiler} {requests : List Request}
    (grants : compiler.Grants next requests) (same : next.SameTables last) :
    compiler.Grants last requests := by
  have both := grants.trans (same.grants grants.roomy)
  rwa [List.append_nil] at both

theorem Answers.trans {compiler : Compiler} {left right : List Request}
    {first last : Except Overflow Compiler} (front : compiler.Answers left first)
    (failed : ∀ overflow, first = .error overflow → last = .error overflow)
    (passed : ∀ middle : Compiler, first = .ok middle → middle.Roomy → middle.Answers right last) :
    compiler.Answers (left ++ right) last := by
  cases first with
  | error overflow =>
    obtain ⟨before, request, after, middle, rfl, granted, refused⟩ := front
    rw [failed overflow rfl]
    exact ⟨before, request, after ++ right, middle, by simp, granted, refused⟩
  | ok middle =>
    have granted : compiler.Grants middle left := front
    have back := passed middle rfl granted.roomy
    cases last with
    | error overflow =>
      obtain ⟨before, request, after, last, rfl, grantedBack, refused⟩ := back
      exact ⟨left ++ before, request, after, last, by simp, granted.trans grantedBack, refused⟩
    | ok next => exact granted.trans back

theorem Answers.map {compiler : Compiler} {requests : List Request}
    {result : Except Overflow Compiler} {finish : Compiler → Compiler}
    (front : compiler.Answers requests result)
    (same : ∀ next : Compiler, next.SameTables (finish next)) :
    compiler.Answers requests (result.map finish) := by
  cases result with
  | error overflow => exact front
  | ok next => exact Grants.sameTables front (same next)

theorem sameTables_moveTo (compiler : Compiler) (position : Position) :
    compiler.SameTables (compiler.moveTo position) :=
  ⟨rfl, rfl, rfl, rfl⟩

theorem Answers.of_moveTo {compiler : Compiler} {requests : List Request}
    {result : Except Overflow Compiler} {position : Position} (roomy : compiler.Roomy)
    (answers : (compiler.moveTo position).Answers requests result) :
    compiler.Answers requests result := by
  have moved : compiler.Answers [] (.ok (compiler.moveTo position)) :=
    (sameTables_moveTo compiler position).grants roomy
  exact moved.trans (by intro overflow impossible; cases impossible)
    (by intro middle reached _; cases reached; exact answers)

theorem answers_nothing {compiler next : Compiler} (roomy : compiler.Roomy)
    (same : compiler.SameTables next) : compiler.Answers [] (.ok next) := same.grants roomy

theorem operand_of_lt {index : Nat} (position : Position) (pool : PoolKind)
    (small : index < UInt16.size) : operand position pool index = .ok (UInt16.ofNat index) :=
  if_pos small

theorem operand_of_not_lt {index : Nat} (position : Position) (pool : PoolKind)
    (large : ¬ index < UInt16.size) :
    operand position pool index = .error ⟨pool, position.lineNumber, position.columnNumber⟩ :=
  if_neg large

theorem answers_constant {compiler : Compiler} (roomy : compiler.Roomy) (text : String)
    (finish : UInt16 × Compiler → Compiler)
    (same : ∀ added : UInt16 × Compiler, added.2.SameTables (finish added)) :
    compiler.Answers [.constant text] ((compiler.constant text).map finish) := by
  have counted := Pool.intern_lt_iff roomy.constants roomy.constantCount text
  unfold constant
  dsimp only [CodeBuilder.addConstant]
  by_cases small : (compiler.builder.constants.intern text).1 < UInt16.size
  · rw [operand_of_lt _ _ small]
    refine Grants.sameTables ?_ (same _)
    exact {
      constants := rfl
      names := rfl
      children := ⟨[], (List.append_nil _).symm, .nil⟩
      roomy := ⟨Pool.faithful_intern roomy.constants text, roomy.names, counted.1 small,
        roomy.nameCount, roomy.childCount, roomy.sectionCount⟩ }
  · rw [operand_of_not_lt _ _ small]
    exact ⟨[], _, [], compiler, rfl, (SameTables.refl compiler).grants roomy, .constant small⟩

theorem answers_lookUp {compiler : Compiler} (roomy : compiler.Roomy) (opcode : Opcode)
    (segment : String) : compiler.Answers [.name segment] (compiler.lookUp opcode segment) := by
  have counted := Pool.intern_lt_iff roomy.names roomy.nameCount segment
  unfold lookUp
  dsimp only [CodeBuilder.addName]
  by_cases small : (compiler.builder.names.intern segment).1 < UInt16.size
  · rw [operand_of_lt _ _ small]
    refine Grants.sameTables ?_ (sameTables_emit _ _ _)
    exact {
      constants := rfl
      names := rfl
      children := ⟨[], (List.append_nil _).symm, .nil⟩
      roomy := ⟨roomy.constants, Pool.faithful_intern roomy.names segment, roomy.constantCount,
        counted.1 small, roomy.childCount, roomy.sectionCount⟩ }
  · rw [operand_of_not_lt _ _ small]
    exact ⟨[], _, [], compiler, rfl, (SameTables.refl compiler).grants roomy, .name small⟩

theorem answers_findAll {segments : List String} {compiler : Compiler} (roomy : compiler.Roomy) :
    compiler.Answers (segments.map .name) (compiler.findAll segments) := by
  induction segments generalizing compiler with
  | nil => exact answers_nothing roomy (.refl compiler)
  | cons segment rest ih =>
    refine Answers.trans (answers_lookUp roomy .find segment) ?_ ?_
    · intro overflow failed
      rw [findAll, failed]
    · intro middle reached roomyMiddle
      rw [findAll, reached]
      exact ih roomyMiddle

theorem answers_path {compiler : Compiler} (roomy : compiler.Roomy) (path : Path) :
    compiler.Answers (path.segments.map .name) (compiler.path path) := by
  unfold Compiler.path
  split
  · rename_i none
    rw [none]
    exact answers_nothing roomy (sameTables_emit _ _ _)
  · rename_i first rest some
    rw [some]
    refine Answers.trans (answers_lookUp roomy .fetch first) ?_ ?_
    · intro overflow failed
      rw [failed]
    · intro middle reached roomyMiddle
      rw [reached]
      exact answers_findAll roomyMiddle

theorem answers_valueTag {compiler : Compiler} (roomy : compiler.Roomy) (opcode : Opcode)
    (path : Path) (position : Position) :
    compiler.Answers (path.segments.map .name) (compiler.valueTag opcode path position) :=
  .of_moveTo roomy ((answers_path ((sameTables_moveTo compiler position).roomy roomy) path).map
    fun next => sameTables_emit next _ _)

theorem answers_text {compiler : Compiler} (roomy : compiler.Roomy) (content : String) :
    compiler.Answers (Node.text content).requests (compiler.text content) := by
  rw [Node.requests]
  unfold text
  split
  · exact answers_nothing roomy (.refl compiler)
  · exact answers_constant roomy content _ fun added => sameTables_emit _ _ _

theorem answers_partialTag {compiler : Compiler} (roomy : compiler.Roomy)
    (name indentation : String) (position : Position) :
    compiler.Answers [.constant name, .constant indentation]
      (compiler.partialTag name indentation position) := by
  have roomyTag := (sameTables_moveTo compiler position).roomy roomy
  have named := answers_constant roomyTag name Prod.snd fun added => .refl added.2
  apply Answers.of_moveTo roomy
  refine Answers.trans named ?_ ?_
  · intro overflow failed
    unfold partialTag
    cases added : (compiler.moveTo position).constant name with
    | error other =>
      rw [added] at failed
      cases failed
      rfl
    | ok pair =>
      rw [added] at failed
      cases failed
  · intro middle reached roomyMiddle
    obtain ⟨added, known, rfl⟩ := map_eq_ok reached
    unfold partialTag
    rw [known]
    exact answers_constant roomyMiddle indentation _ fun indented => sameTables_emit _ _ _

/-- A block with one more child. -/
theorem grants_body {compiler next : Compiler} (roomy : compiler.Roomy) {body : List Node}
    {inner : Compiler} (compiled : (Compiler.start "").nodes body = .ok inner)
    (small : compiler.builder.children.size < UInt16.size)
    (constants : next.builder.constants = compiler.builder.constants)
    (names : next.builder.names = compiler.builder.names)
    (children : next.builder.children = compiler.builder.children.push inner.finish)
    (sections : next.builder.sections.size ≤ compiler.builder.sections.size + 1) :
    compiler.Grants next [.body body] where
  constants := constants
  names := names
  children := ⟨[inner.finish], by rw [children, Array.toList_push],
    .cons ⟨inner, compiled, rfl⟩ .nil⟩
  roomy := by
    have counted := roomy.sectionCount
    refine ⟨constants ▸ roomy.constants, names ▸ roomy.names, constants ▸ roomy.constantCount,
      names ▸ roomy.nameCount, ?_, ?_⟩
    · rw [children, Array.size_push]
      exact small
    · rw [children, Array.size_push]
      omega

theorem answers_enterBlock {compiler : Compiler} (roomy : compiler.Roomy) {body : List Node}
    {inner : Compiler} (compiled : (Compiler.start "").nodes body = .ok inner) (raw : String)
    (pair : Delimiters) (position : Position) :
    compiler.Answers [.body body] (compiler.enterBlock inner.finish raw pair position) := by
  dsimp only [enterBlock, CodeBuilder.addChild, CodeBuilder.addSection]
  by_cases small : compiler.builder.children.size < UInt16.size
  · -- There is a section entry for some of the children only, so its index fits when theirs do.
    have entry := Nat.lt_of_le_of_lt roomy.sectionCount small
    rw [operand_of_lt _ _ small, operand_of_lt _ _ entry]
    refine Grants.sameTables ?_ (sameTables_emit _ _ _)
    exact grants_body roomy compiled small rfl rfl rfl (Nat.le_of_eq (Array.size_push _))
  · rw [operand_of_not_lt _ _ small]
    exact ⟨[], _, [], compiler, rfl, (SameTables.refl compiler).grants roomy,
      .body compiled small⟩

theorem answers_enterInverted {compiler : Compiler} (roomy : compiler.Roomy) {body : List Node}
    {inner : Compiler} (compiled : (Compiler.start "").nodes body = .ok inner)
    (position : Position) :
    compiler.Answers [.body body] (compiler.enterInverted inner.finish position) := by
  dsimp only [enterInverted, CodeBuilder.addChild]
  by_cases small : compiler.builder.children.size < UInt16.size
  · rw [operand_of_lt _ _ small]
    refine Grants.sameTables ?_ (sameTables_emit _ _ _)
    exact grants_body roomy compiled small rfl rfl rfl (Nat.le_succ _)
  · rw [operand_of_not_lt _ _ small]
    exact ⟨[], _, [], compiler, rfl, (SameTables.refl compiler).grants roomy,
      .body compiled small⟩

/-- The path of a section, then its body, and then the entry for it. -/
theorem answers_section {compiler : Compiler} (roomy : compiler.Roomy) (path : Path)
    (body : List Node) (position : Position) (enter : Compiler → Code → Except Overflow Compiler)
    (entered : ∀ (middle : Compiler), middle.Roomy → ∀ inner,
      (Compiler.start "").nodes body = .ok inner →
      middle.Answers [.body body] (enter middle inner.finish)) :
    compiler.Answers (path.segments.map .name ++ [.body body])
      (match (compiler.moveTo position).path path with
      | .error overflow => .error overflow
      | .ok found =>
        match (Compiler.start "").nodes body with
        | .error overflow => .error overflow
        | .ok inner => enter found inner.finish) := by
  have roomyTag := (sameTables_moveTo compiler position).roomy roomy
  apply Answers.of_moveTo roomy
  refine Answers.trans (answers_path roomyTag path) ?_ ?_
  · intro overflow failed
    rw [failed]
  · intro middle reached roomyMiddle
    rw [reached]
    dsimp only
    cases compiled : (Compiler.start "").nodes body with
    | error overflow =>
      exact ⟨[], _, [], middle, rfl, (SameTables.refl middle).grants roomyMiddle,
        .inner compiled⟩
    | ok inner => exact entered middle roomyMiddle inner compiled

mutual

/-- Compiling a node answers its requests. -/
theorem answers_node {compiler : Compiler} (roomy : compiler.Roomy) :
    ∀ node : Node, compiler.Answers node.requests (compiler.node node)
  | .sequence children => by
    rw [Node.requests, Compiler.node]
    exact answers_nodes roomy children
  | .text content => by
    rw [Compiler.node]
    exact answers_text roomy content
  | .escaped path position => by
    rw [Node.requests, Compiler.node]
    exact answers_valueTag roomy .escapedTag path position
  | .unescaped path position => by
    rw [Node.requests, Compiler.node]
    exact answers_valueTag roomy .unescapedTag path position
  | .block path body raw pair position => by
    rw [Node.requests, Compiler.node]
    exact answers_section roomy path body position
      (fun found inner => found.enterBlock inner raw pair position)
      fun middle roomyMiddle inner compiled =>
        answers_enterBlock roomyMiddle compiled raw pair position
  | .inverted path body position => by
    rw [Node.requests, Compiler.node]
    exact answers_section roomy path body position
      (fun found inner => found.enterInverted inner position)
      fun middle roomyMiddle inner compiled => answers_enterInverted roomyMiddle compiled position
  | .partialTag name indentation position => by
    rw [Node.requests, Compiler.node]
    exact answers_partialTag roomy name indentation position
  | .comment content position => by
    rw [Node.requests, Compiler.node]
    exact answers_nothing roomy (.refl compiler)
  | .delimiters pair position => by
    rw [Node.requests, Compiler.node]
    exact answers_nothing roomy (.refl compiler)

theorem answers_nodes {compiler : Compiler} (roomy : compiler.Roomy) :
    ∀ nodes : List Node, compiler.Answers (Node.requestsAll nodes) (compiler.nodes nodes)
  | [] => by
    rw [Node.requestsAll, Compiler.nodes]
    exact answers_nothing roomy (.refl compiler)
  | first :: rest => by
    rw [Node.requestsAll]
    refine Answers.trans (answers_node roomy first) ?_ ?_
    · intro overflow failed
      rw [Compiler.nodes, failed]
    · intro middle reached roomyMiddle
      rw [Compiler.nodes, reached]
      exact answers_nodes roomyMiddle rest

end

end Compiler

end Mustache
