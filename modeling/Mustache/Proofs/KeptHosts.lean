import Mustache.DirectoryPartials
import Mustache.Proofs.Renderer

/-!
# Hosts under an invariant

A host has states that no use of it leads to, such as a table with code that was never compiled. In
the states under an invariant that all answers keep it is a host of its own, and it renders there as
it does with all its states. Under such an invariant, partials in memory and partials in a directory
are hosts of generated code.
-/

namespace Mustache

set_option autoImplicit false

section Invariant

variable {State : Type} [Host State] {holds : State → Prop}

/-- The invariant holds again after every answer. -/
structure Host.Keeps (holds : State → Prop) : Prop where
  partial? : ∀ (state : State) (name : String), holds state → holds (Host.partial? state name).2
  expand : ∀ (state : State) (text : String) (pair : Delimiters), holds state →
    holds (Host.expand state text pair).2

namespace Host.Keeps

/-- The host in the states under the invariant. -/
@[reducible]
def host (keeps : Host.Keeps holds) : Host {state : State // holds state} where
  partial? state name :=
    let answer := Host.partial? state.val name
    (answer.1, ⟨answer.2, keeps.partial? state.val name state.property⟩)
  expand state text pair :=
    let answer := Host.expand state.val text pair
    (answer.1, ⟨answer.2, keeps.expand state.val text pair state.property⟩)
  ambient? state := Host.ambient? state.val

/-- A state beside the same state under the invariant. -/
def Same (holds : State → Prop) (state : State) (kept : {state : State // holds state}) : Prop :=
  kept.val = state

variable (keeps : Host.Keeps holds)

theorem inStep : @Host.InStep State {state : State // holds state} _ keeps.host (Same holds) :=
  letI := keeps.host
  { partial? := by
      rintro _ kept name rfl
      exact ⟨rfl, rfl⟩
    expand := by
      rintro _ kept text pair rfl
      exact ⟨rfl, rfl⟩ }

/-- Rendering is the same with and without the invariant. -/
theorem renderInto_agrees (machine : Machine) (code : Code) (kept : {state : State // holds state})
    (output : Output) :
    letI := keeps.host
    (machine.renderInto code kept.val output).Agree (Same holds)
      (machine.renderInto code kept output) :=
  letI := keeps.host
  Machine.renderInto_agrees keeps.inStep rfl machine code output

theorem generated
    (templates : ∀ (state : State) (name : String) (code : Code), holds state →
      (Host.partial? state name).1 = .ok (some code) → ∃ node : Node, node.Generates code)
    (expansions : ∀ (state : State) (text : String) (pair : Delimiters) (code : Code), holds state →
      (Host.expand state text pair).1 = .ok code → ∃ node : Node, node.Generates code) :
    @Host.Generated {state : State // holds state} keeps.host :=
  letI := keeps.host
  { partial? := fun kept name code => templates kept.val name code kept.property
    expand := fun kept text pair code => expansions kept.val text pair code kept.property }

/-- From states under an invariant, a host of generated code renders the code of a tree as the walk
of the tree goes, also if in other states it would answer with other code. -/
theorem exists_walk (generated : @Host.Generated {state : State // holds state} keeps.host) :
    letI := keeps.host
    ∃ trees : TreeHost {state : State // holds state}, trees.Compiles ∧
      ∀ (node : Node) (name : String) (code : Code), node.toCode name = .ok code →
        ∀ (machine : Machine) (kept : {state : State // holds state}) (output : Output),
          let limit := machine.options.depthLimit
          let walked := node.evaluate trees limit limit
            ⟨machine.context, machine.stack, output, kept⟩
          (machine.renderInto code kept.val output).Agree (Same holds)
            ⟨walked.1, ⟨machine.options, walked.2.context, walked.2.stack⟩, walked.2.host,
              walked.2.output⟩ := by
  let := keeps.host
  obtain ⟨trees, compiles⟩ := exists_compiles generated
  refine ⟨trees, compiles, fun node name code built machine kept output => ?_⟩
  dsimp only
  rw [← Run.execute_of_generates compiles node code ⟨name, built⟩]
  exact keeps.renderInto_agrees machine code kept output

end Host.Keeps

end Invariant

theorem exists_of_compileExpansion {text : String} {pair : Delimiters} {code : Code}
    (built : compileExpansion text pair = .ok code) : ∃ node : Node, node.Generates code := by
  obtain ⟨node, -, generates⟩ := exists_of_compile (ok_of_mapError built)
  exact ⟨node, generates⟩

namespace Partials

theorem keeps_current : Host.Keeps Current where
  partial? _ name current := (current.partial? name).2
  expand _ _ _ current := current

instance : Host {partials : Partials // partials.Current} := keeps_current.host

/-- Partials in memory answer with generated code as long as the code at hand is that of the present
sources, which it always is. -/
theorem generated_current : Host.Generated {partials : Partials // partials.Current} := by
  apply keeps_current.generated
  · intro partials name code current answered
    rw [(current.partial? name).1] at answered
    obtain ⟨source, node, -, -, generates⟩ := exists_of_templateOf answered
    exact ⟨node, generates⟩
  · intro partials text pair code _ answered
    exact exists_of_compileExpansion answered

end Partials

namespace DirectoryPartials

/-- All code at hand was generated from trees. -/
def Built (files : DirectoryPartials) : Prop :=
  ∀ (name : String) (compiled : Compiled), files.compiled.find? name = some compiled →
    ∃ node : Node, node.Generates compiled.code

theorem built_ofRoot (disk : Disk) (root extension : String) : (ofRoot disk root extension).Built :=
  nofun

variable {files : DirectoryPartials}

theorem Built.load (built : files.Built) (name path source : String) :
    (files.load name path source).2.Built ∧
      ∀ compiled, (files.load name path source).1 = .ok (some compiled) →
        ∃ node : Node, node.Generates compiled.code := by
  unfold DirectoryPartials.load
  cases made : compilePartial name source (.file path) with
  | error error => exact ⟨built, nofun⟩
  | ok code =>
    obtain ⟨node, -, generates⟩ := exists_of_compilePartial made
    refine ⟨?_, ?_⟩
    · intro other compiled found
      dsimp only at found
      rw [Table.find?_insert] at found
      split at found
      · cases found
        exact ⟨node, generates⟩
      · exact built other compiled found
    · rintro compiled ⟨⟩
      exact ⟨node, generates⟩

theorem Built.lookUp (built : files.Built) (name : String) :
    (files.lookUp name).2.Built ∧
      ∀ compiled, (files.lookUp name).1 = .ok (some compiled) →
        ∃ node : Node, node.Generates compiled.code := by
  unfold DirectoryPartials.lookUp
  cases found : files.compiled.find? name with
  | some compiled =>
    refine ⟨built, ?_⟩
    rintro other ⟨⟩
    exact built name compiled found
  | none =>
    dsimp only
    cases files.pathFor name with
    | error error => exact ⟨built, nofun⟩
    | ok path =>
      dsimp only
      -- Only a file that was read adds code; in all other cases there is no code to speak of.
      cases files.disk.read? path with
      | none => exact ⟨built, nofun⟩
      | some read =>
        cases read with
        | ok source => exact built.load name path source
        | error failure => cases failure <;> exact ⟨built, nofun⟩

theorem keeps_built : Host.Keeps Built where
  partial? _ name built := (built.lookUp name).1
  expand _ _ _ built := built

instance : Host {files : DirectoryPartials // files.Built} := keeps_built.host

/-- Partials in a directory answer with generated code as long as the code at hand was, which is so
from the start. -/
theorem generated_built : Host.Generated {files : DirectoryPartials // files.Built} := by
  apply keeps_built.generated
  · intro files name code built answered
    change (files.lookUp name).1.map (fun compiled => compiled.map Compiled.code) = _ at answered
    cases found : (files.lookUp name).1 with
    | error error =>
      rw [found] at answered
      cases answered
    | ok compiled? =>
      rw [found] at answered
      cases compiled? with
      | none => cases answered
      | some compiled =>
        cases answered
        exact (built.lookUp name).2 compiled found
  · intro files text pair code _ answered
    exact exists_of_compileExpansion answered

end DirectoryPartials

end Mustache
