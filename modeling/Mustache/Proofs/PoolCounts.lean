import Mustache.Proofs.Requests

/-!
# What fits a block

The size of a pool is the number of distinct texts that it was asked for. A block compiles exactly
if its constants, its names and its bodies can all be counted in 16 bits and each of its bodies
compiles.
-/

namespace Mustache

set_option autoImplicit false

/-- What nodes add to the tables of the block that they are in, table by table. -/
structure Demand where
  constants : List String
  names : List String
  bodies : List (List Node)

namespace Demand

def nothing : Demand := ⟨[], [], []⟩

def ofConstant (text : String) : Demand := ⟨[text], [], []⟩

def ofNames (names : List String) : Demand := ⟨[], names, []⟩

def ofBody (body : List Node) : Demand := ⟨[], [], [body]⟩

def and (first second : Demand) : Demand :=
  ⟨first.constants ++ second.constants, first.names ++ second.names, first.bodies ++ second.bodies⟩

def ofRequests (requests : List Request) : Demand :=
  ⟨Request.constants requests, Request.names requests, Request.bodies requests⟩

theorem ofRequests_append (first second : List Request) :
    ofRequests (first ++ second) = (ofRequests first).and (ofRequests second) := by
  unfold ofRequests and
  rw [Request.constants_append, Request.names_append, Request.bodies_append]

theorem ofRequests_names (names : List String) :
    ofRequests (names.map .name) = ofNames names := by
  induction names with
  | nil => rfl
  | cons name rest ih => exact congrArg (Demand.and (ofNames [name])) ih

end Demand

mutual

/-- What a node adds; the body of a section only adds itself. -/
def Node.demand : Node → Demand
  | .sequence children => Node.demandAll children
  | .text content => if content.isEmpty then .nothing else .ofConstant content
  | .escaped path _ => .ofNames path.segments
  | .unescaped path _ => .ofNames path.segments
  | .block path body _ _ _ => (Demand.ofNames path.segments).and (.ofBody body)
  | .inverted path body _ => (Demand.ofNames path.segments).and (.ofBody body)
  | .partialTag name indentation _ => (Demand.ofConstant name).and (.ofConstant indentation)
  | .comment _ _ => .nothing
  | .delimiters _ _ => .nothing

def Node.demandAll : List Node → Demand
  | [] => .nothing
  | first :: rest => first.demand.and (Node.demandAll rest)

end

mutual

theorem Node.demand_eq (node : Node) : node.demand = .ofRequests node.requests := by
  cases node with
  | sequence children =>
    rw [Node.demand, Node.requests]
    exact Node.demandAll_eq children
  | text content =>
    rw [Node.demand, Node.requests]
    split <;> rfl
  | escaped path position | unescaped path position =>
    rw [Node.demand, Node.requests, Demand.ofRequests_names]
  | block path body raw pair position | inverted path body position =>
    rw [Node.demand, Node.requests, Demand.ofRequests_append, Demand.ofRequests_names]
    rfl
  | partialTag name indentation position =>
    rw [Node.demand, Node.requests]
    rfl
  | comment content position | delimiters pair position =>
    rw [Node.demand, Node.requests]
    rfl

theorem Node.demandAll_eq (nodes : List Node) :
    Node.demandAll nodes = .ofRequests (Node.requestsAll nodes) := by
  cases nodes with
  | nil =>
    rw [Node.demandAll, Node.requestsAll]
    rfl
  | cons first rest =>
    rw [Node.demandAll, Node.requestsAll, Demand.ofRequests_append, Node.demand_eq first,
      Node.demandAll_eq rest]

end

namespace Compiler

/-- The tables stay within 16 bits when the demand is met, and the bodies in it compile. -/
structure Admits (compiler : Compiler) (demand : Demand) : Prop where
  constants :
    (compiler.builder.constants.internAll demand.constants).items.size ≤ UInt16.size
  names : (compiler.builder.names.internAll demand.names).items.size ≤ UInt16.size
  children : compiler.builder.children.size + demand.bodies.length ≤ UInt16.size
  bodies : ∀ body ∈ demand.bodies, ∃ inner, (Compiler.start "").nodes body = .ok inner

theorem BodyCode.compiles {added : List Code} {bodies : List (List Node)}
    (compiled : List.Forall₂ BodyCode added bodies) {body : List Node} (inside : body ∈ bodies) :
    ∃ inner, (Compiler.start "").nodes body = .ok inner := by
  induction compiled with
  | nil => cases inside
  | cons first rest ih =>
    rcases List.mem_cons.1 inside with rfl | inside
    · obtain ⟨inner, reached, -⟩ := first
      exact ⟨inner, reached⟩
    · exact ih inside

theorem Grants.admits {compiler next : Compiler} {requests : List Request}
    (grants : compiler.Grants next requests) : compiler.Admits (.ofRequests requests) where
  constants := grants.constants ▸ grants.roomy.constantCount
  names := grants.names ▸ grants.roomy.nameCount
  children := by
    obtain ⟨added, children, compiled⟩ := grants.children
    have count := grants.roomy.childCount
    rw [← Array.length_toList, children, List.length_append, Array.length_toList,
      compiled.length_eq] at count
    exact count
  bodies := by
    obtain ⟨added, -, compiled⟩ := grants.children
    intro body inside
    exact BodyCode.compiles compiled inside

/-- What is refused after some requests were granted does not fit with them. -/
theorem Refuses.not_admits {compiler middle : Compiler} {before after : List Request}
    {request : Request} {pool : PoolKind} (granted : compiler.Grants middle before)
    (refused : middle.Refuses request pool) :
    ¬ compiler.Admits (.ofRequests (before ++ request :: after)) := by
  rintro ⟨constants, names, children, bodies⟩
  dsimp only [Demand.ofRequests] at constants names children bodies
  rw [Request.constants_append, Pool.internAll_append, ← granted.constants] at constants
  rw [Request.names_append, Pool.internAll_append, ← granted.names] at names
  rw [Request.bodies_append] at children bodies
  cases refused with
  | @constant text full =>
    apply full
    rw [Pool.intern_lt_iff granted.roomy.constants granted.roomy.constantCount]
    exact Nat.le_trans (Pool.size_le_internAll _ (Request.constants after)) constants
  | @name segment full =>
    apply full
    rw [Pool.intern_lt_iff granted.roomy.names granted.roomy.nameCount]
    exact Nat.le_trans (Pool.size_le_internAll _ (Request.names after)) names
  | @inner body overflow failed =>
    obtain ⟨inner, compiled⟩ := bodies body (List.mem_append_right _ (List.mem_cons_self ..))
    rw [compiled] at failed
    cases failed
  | @body body inner compiled full =>
    obtain ⟨added, grown, matched⟩ := granted.children
    apply full
    rw [← Array.length_toList, grown, List.length_append, Array.length_toList, matched.length_eq]
    rw [List.length_append] at children
    have one : 0 < (Request.bodies (.body body :: after)).length := Nat.succ_pos _
    omega

/-- Nodes compile exactly if what they ask for fits. -/
theorem Answers.admits_iff {compiler : Compiler} {requests : List Request}
    {result : Except Overflow Compiler} (answers : compiler.Answers requests result) :
    compiler.Admits (.ofRequests requests) ↔ ∃ next, result = .ok next := by
  cases result with
  | ok next => exact ⟨fun _ => ⟨next, rfl⟩, fun _ => Grants.admits answers⟩
  | error overflow =>
    obtain ⟨before, request, after, middle, rfl, granted, refused⟩ := answers
    constructor
    · exact fun admits => absurd admits (refused.not_admits granted)
    · rintro ⟨next, impossible⟩
      cases impossible

theorem admits_node (name : String) (node : Node) :
    (Compiler.start name).Admits node.demand ↔
      ∃ next, (Compiler.start name).node node = .ok next := by
  rw [node.demand_eq]
  exact (answers_node (roomy_start name) node).admits_iff

theorem admits_nodes (name : String) (nodes : List Node) :
    (Compiler.start name).Admits (Node.demandAll nodes) ↔
      ∃ next, (Compiler.start name).nodes nodes = .ok next := by
  rw [Node.demandAll_eq]
  exact (answers_nodes (roomy_start name) nodes).admits_iff

/-- A lone section needs room for nothing but its body. -/
theorem admits_block {body : List Node} (admits : (Compiler.start "").Admits (Node.demandAll body))
    (name segment raw : String) (delimiters : Delimiters) (position : Position) :
    (Compiler.start name).Admits
      (Node.sequence [.block ⟨[segment]⟩ body raw delimiters position]).demand := by
  have bound : (Pool.empty.internAll [segment]).items.size ≤ [segment].length := by
    apply Pool.size_le_length (Pool.faithful_internAll Pool.faithful_empty _)
    intro text inside
    rw [Pool.mem_internAll Pool.faithful_empty] at inside
    simpa [Pool.empty] using inside
  have single : 1 ≤ UInt16.size := by decide
  refine ⟨Nat.zero_le _, Nat.le_trans bound single, single, ?_⟩
  intro other inside
  obtain rfl := List.mem_singleton.1 inside
  exact (admits_nodes "" other).1 admits

end Compiler

/-- A template that parses compiles, or a table of one of its blocks overflows. -/
theorem compile_of_parse {delimiters : Delimiters} {source : String} {tree : Node}
    (parsed : parse delimiters source = .ok tree) (name : String) :
    ((Compiler.start name).Admits tree.demand ∧ ∃ code, compile name delimiters source = .ok code) ∨
      (¬ (Compiler.start name).Admits tree.demand ∧
        ∃ overflow, compile name delimiters source = .error (.tooLarge overflow)) := by
  unfold compile Node.toCode
  rw [parsed]
  dsimp only
  rw [Compiler.admits_node name tree]
  cases (Compiler.start name).node tree with
  | ok next => exact .inl ⟨⟨next, rfl⟩, next.finish, rfl⟩
  | error overflow => exact .inr ⟨(fun ⟨_, impossible⟩ => nomatch impossible), overflow, rfl⟩

end Mustache
