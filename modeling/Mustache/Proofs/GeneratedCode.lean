import Mustache.Proofs.CompiledRun

/-!
# Generated code means its tree

Running the code generated from a tree is the same as walking the tree: the same output, the same
questions to the host, the same result, on every context, stack, output and depth. The induction is
on the depth that is left, and for one depth on the tree; entering a partial or an expansion uses up
depth, entering a section goes down the tree.
-/

namespace Mustache

set_option autoImplicit false

namespace Run

variable {State : Type} [Host State] {trees : TreeHost State} {limit remaining : Nat}

omit [Host State] in
/-- Two questions with fitting answers may be followed by runs that agree on such answers. -/
theorem ask_bind_eq {Tree Result Other : Type} {fits : Tree → Result → Prop}
    {left : State → Except RunError Tree × State} {right : State → Except RunError Result × State}
    (answers : ∀ state, Answers fits (left state).1 (right state).1 ∧
      (left state).2 = (right state).2)
    {afterLeft : Tree → Run State Other} {afterRight : Result → Run State Other}
    (agree : ∀ tree result, fits tree result → afterRight result = afterLeft tree) :
    ask right >>= afterRight = ask left >>= afterLeft := by
  funext state
  obtain ⟨same, after⟩ := answers state.host
  simp only [bind_def, andThen, ask, ← after]
  generalize (left state.host).1 = leftAnswer at same
  generalize (right state.host).1 = rightAnswer at same
  cases same with
  | error reason => rfl
  | ok tree result fit => exact congrFun (agree tree result fit) _

/-- At a smaller depth, code means the tree that it was generated from. -/
def MeansBelow (trees : TreeHost State) (limit remaining : Nat) : Prop :=
  ∀ below, remaining = below + 1 → ∀ node code, Node.Generates node code →
    (execute limit below (Frame.start code) : Run State Unit) = node.evaluate trees limit below

theorem expansion_eq (compiles : trees.Compiles) (index : Nat) (raw : String)
    (pair : Delimiters) :
    MeansBelow trees limit remaining →
    (expansion limit remaining ⟨index, raw, pair⟩ : Callable Value → Run State Unit) =
      fun callable =>
        let text := (callable.apply raw).text
        if Text.contains pair.opening.toList text.toList then
          match remaining with
          | 0 => fail (.depthExceeded limit)
          | below + 1 => do
            let expansion ← ask fun host => trees.expand host text pair
            expansion.evaluate trees limit below
        else write text := by
  intro means
  funext callable
  unfold expansion
  dsimp only
  split
  · cases remaining with
    | zero => rfl
    | succ below =>
      exact ask_bind_eq (fun state => compiles.expand state _ pair) fun tree code generated =>
        means below rfl tree code generated
  · rfl

theorem partialTag_eq (compiles : trees.Compiles) (name indentation : String) :
    MeansBelow trees limit remaining →
    (match remaining with
      | 0 => fail (.depthExceeded limit)
      | below + 1 => do
        let found ← ask fun host => Host.partial? host name
        match found with
        | none => pure ()
        | some template =>
          if indentation.isEmpty then execute limit below (Frame.start template)
          else indented indentation (execute limit below (Frame.start template)) :
        Run State Unit) =
      (match remaining with
      | 0 => fail (.depthExceeded limit)
      | below + 1 => do
        let found ← ask fun host => trees.partial? host name
        match found with
        | none => pure ()
        | some template =>
          if indentation.isEmpty then template.evaluate trees limit below
          else indented indentation (template.evaluate trees limit below)) := by
  intro means
  cases remaining with
  | zero => rfl
  | succ below =>
    apply ask_bind_eq (fun state => compiles.partial? state name)
    intro tree code fit
    cases fit with
    | none => rfl
    | some generated => simp only [means below rfl _ _ generated]

mutual

/-- Where a block lays a tree, running it is walking the tree and going on behind it. -/
theorem execute_of_lays (compiles : trees.Compiles) (means : MeansBelow trees limit remaining)
    (node : Node) {code : Code} {start stop : Nat} (lays : code.Lays start node stop) :
    (execute limit remaining (Frame.atOffset code start) : Run State Unit) = (do
      node.evaluate trees limit remaining
      execute limit remaining (Frame.atOffset code stop)) := by
  cases node with
  | sequence children =>
    rw [Code.Lays] at lays
    rw [Node.evaluate]
    exact execute_of_laysAll compiles means children lays
  | text content =>
    rw [Code.Lays] at lays
    rw [Node.evaluate]
    rcases lays with ⟨rfl, rfl⟩ | ⟨index, found, holds⟩
    · rw [write_empty, pure_bind]
    · rw [execute_of_holds holds (by simp), perform_text found]
      rfl
  | escaped path position =>
    rw [Code.Lays] at lays
    obtain ⟨tag, resolves, holds⟩ := lays
    rw [Node.evaluate, execute_of_use _ resolves holds (by simp) perform_escapedTag]
    rfl
  | unescaped path position =>
    rw [Code.Lays] at lays
    obtain ⟨tag, resolves, holds⟩ := lays
    rw [Node.evaluate, execute_of_use _ resolves holds (by simp) perform_unescapedTag]
    rfl
  | block path body raw pair position =>
    rw [Code.Lays] at lays
    -- The body lies in a child block of its own, which ends in `halt` and so comes back here.
    obtain ⟨tag, index, entry, child, last, resolves, placed, holds, known, found, nodes, halt⟩ :=
      lays
    have inner := execute_of_laysAll compiles means body nodes
    rw [execute_of_halt halt, bind_pure_unit] at inner
    rw [Node.evaluate,
      execute_of_use _ resolves holds (by simp) (perform_block known found), placed,
      Frame.start_eq_atOffset, inner, expansion_eq compiles entry raw pair means]
    rfl
  | inverted path body position =>
    rw [Code.Lays] at lays
    obtain ⟨tag, index, child, last, resolves, placed, holds, found, nodes, halt⟩ := lays
    have inner := execute_of_laysAll compiles means body nodes
    rw [execute_of_halt halt, bind_pure_unit] at inner
    rw [Node.evaluate, execute_of_use _ resolves holds (by simp) (perform_inverted found), placed,
      Frame.start_eq_atOffset, inner]
    rfl
  | partialTag name indentation position =>
    rw [Code.Lays] at lays
    obtain ⟨nameIndex, indentationIndex, placed, holds, named, indented⟩ := lays
    rw [Node.evaluate.eq_def, execute_of_holds holds (by simp), perform_partialTag named indented,
      placed]
    exact congrArg (fun body => located (Node.locationAt position) body >>= fun _ =>
      execute limit remaining (Frame.atOffset code stop))
        (partialTag_eq compiles name indentation means)
  | comment content position =>
    rw [Code.Lays] at lays
    rw [Node.evaluate, lays, pure_bind]
  | delimiters pair position =>
    rw [Code.Lays] at lays
    rw [Node.evaluate, lays, pure_bind]

theorem execute_of_laysAll (compiles : trees.Compiles) (means : MeansBelow trees limit remaining)
    (nodes : List Node) {code : Code} {start stop : Nat} (lays : code.LaysAll start nodes stop) :
    (execute limit remaining (Frame.atOffset code start) : Run State Unit) = (do
      Node.evaluateAll trees limit remaining nodes
      execute limit remaining (Frame.atOffset code stop)) := by
  cases nodes with
  | nil =>
    rw [Code.LaysAll] at lays
    rw [Node.evaluateAll, lays, pure_bind]
  | cons first rest =>
    rw [Code.LaysAll] at lays
    obtain ⟨next, lays, others⟩ := lays
    rw [Node.evaluateAll, execute_of_lays compiles means first lays,
      execute_of_laysAll compiles means rest others, bind_assoc]

end

theorem execute_of_laysBody (compiles : trees.Compiles) (means : MeansBelow trees limit remaining)
    (node : Node) {code : Code} (lays : Compiler.LaysBody code [node]) :
    (execute limit remaining (Frame.start code) : Run State Unit) =
      node.evaluate trees limit remaining := by
  obtain ⟨last, nodes, halt⟩ := lays
  rw [Frame.start_eq_atOffset, execute_of_laysAll compiles means [node] nodes,
    execute_of_halt halt, bind_pure_unit, Node.evaluateAll, Node.evaluateAll, bind_pure_unit]

/-- Code generated from a tree means the tree at every depth. -/
theorem execute_of_generates (compiles : trees.Compiles) (node : Node) (code : Code)
    (generated : node.Generates code) :
    (execute limit remaining (Frame.start code) : Run State Unit) =
      node.evaluate trees limit remaining := by
  -- Partials and expansions bring in code that is not below `node`, but one level deeper.
  induction remaining generalizing node code with
  | zero =>
    obtain ⟨name, built⟩ := generated
    exact execute_of_laysBody compiles (by intro below impossible; omega) node
      (Node.laysBody_toCode built)
  | succ remaining ih =>
    obtain ⟨name, built⟩ := generated
    refine execute_of_laysBody compiles ?_ node (Node.laysBody_toCode built)
    intro below same inner innerCode innerGenerated
    cases same
    exact ih inner innerCode innerGenerated

end Run

end Mustache
