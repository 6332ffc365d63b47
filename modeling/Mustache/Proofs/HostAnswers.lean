import Mathlib
import Mustache.Proofs.GeneratedCode

/-!
# Hosts of generated code

A host that only ever answers with generated code has a host of trees beside it. A host can also be
watched: the watched host answers the same and keeps the questions in the order they were asked, so
equal runs on it have asked the same.
-/

namespace Mustache

set_option autoImplicit false

variable {State : Type}

/-- All code that the host answers with, in whatever state it is asked, was generated from trees. A
host with states in which it answers otherwise, such as a table filled by hand, is taken in the
states under an invariant that its answers keep; those are the states of a host again. -/
structure Host.Generated (State : Type) [Host State] : Prop where
  partial? : ∀ (state : State) (name : String) (code : Code),
    (Host.partial? state name).1 = .ok (some code) → ∃ node : Node, node.Generates code
  expand : ∀ (state : State) (text : String) (pair : Delimiters) (code : Code),
    (Host.expand state text pair).1 = .ok code → ∃ node : Node, node.Generates code

theorem ok_of_mapError {Reason Other Result : Type} {convert : Reason → Other}
    {outcome : Except Reason Result} {result : Result}
    (same : outcome.mapError convert = .ok result) : outcome = .ok result := by
  cases outcome with
  | error reason => cases same
  | ok other => exact congrArg Except.ok (Except.ok.inj same)

/-- Compiled code was generated from the tree of its source. -/
theorem exists_of_compile {name source : String} {pair : Delimiters} {code : Code}
    (compiled : compile name pair source = .ok code) :
    ∃ node, parse pair source = .ok node ∧ node.Generates code := by
  unfold compile at compiled
  cases parsed : parse pair source with
  | error error =>
    rw [parsed] at compiled
    cases compiled
  | ok node =>
    rw [parsed] at compiled
    exact ⟨node, rfl, name, ok_of_mapError compiled⟩

theorem exists_answers {Tree Result : Type} {fits : Tree → Result → Prop}
    (answer : Except RunError Result)
    (fit : ∀ result, answer = .ok result → ∃ tree, fits tree result) :
    ∃ other, Answers fits other answer := by
  cases answer with
  | error reason => exact ⟨.error reason, .error reason⟩
  | ok result =>
    obtain ⟨tree, fitting⟩ := fit result rfl
    exact ⟨.ok tree, .ok tree result fitting⟩

/-- A host of generated code compiles some host of trees. -/
theorem exists_compiles [Host State] (generated : Host.Generated State) :
    ∃ trees : TreeHost State, trees.Compiles := by
  have partials : ∀ (state : State) (name : String), ∃ answer,
      Answers (Option.Rel Node.Generates) answer (Host.partial? state name).1 := by
    intro state name
    apply exists_answers
    intro found answered
    cases found with
    | none => exact ⟨none, .none⟩
    | some code =>
      obtain ⟨node, generates⟩ := generated.partial? state name code answered
      exact ⟨some node, .some generates⟩
  have expansions : ∀ (state : State) (text : String) (pair : Delimiters), ∃ answer,
      Answers Node.Generates answer (Host.expand state text pair).1 := by
    intro state text pair
    exact exists_answers _ (generated.expand state text pair)
  choose partialAnswer partialFits using partials
  choose expandAnswer expandFits using expansions
  exact ⟨{
    partial? := fun state name => (partialAnswer state name, (Host.partial? state name).2)
    expand := fun state text pair =>
      (expandAnswer state text pair, (Host.expand state text pair).2) },
    { partial? := fun state name => ⟨partialFits state name, rfl⟩
      expand := fun state text pair => ⟨expandFits state text pair, rfl⟩ }⟩

/-- What a run can ask a host. -/
inductive Question where
  | template (name : String)
  | expansion (text : String) (pair : Delimiters)
deriving Repr, DecidableEq

/-- A host together with the questions asked so far, the latest first. -/
structure Watched (State : Type) where
  host : State
  asked : List Question

instance [Host State] : Host (Watched State) where
  partial? watched name :=
    let answer := Host.partial? watched.host name
    (answer.1, ⟨answer.2, .template name :: watched.asked⟩)
  expand watched text pair :=
    let answer := Host.expand watched.host text pair
    (answer.1, ⟨answer.2, .expansion text pair :: watched.asked⟩)
  ambient? watched := Host.ambient? watched.host

def TreeHost.watched (trees : TreeHost State) : TreeHost (Watched State) where
  partial? watched name :=
    let answer := trees.partial? watched.host name
    (answer.1, ⟨answer.2, .template name :: watched.asked⟩)
  expand watched text pair :=
    let answer := trees.expand watched.host text pair
    (answer.1, ⟨answer.2, .expansion text pair :: watched.asked⟩)

theorem TreeHost.Compiles.watched [Host State] {trees : TreeHost State}
    (compiles : trees.Compiles) : trees.watched.Compiles where
  partial? state name := by
    obtain ⟨answers, same⟩ := compiles.partial? state.host name
    exact ⟨answers, congrArg (Watched.mk · _) same⟩
  expand state text pair := by
    obtain ⟨answers, same⟩ := compiles.expand state.host text pair
    exact ⟨answers, congrArg (Watched.mk · _) same⟩

/-- A host without partials that expands every text to a tag for the top of the context. -/
structure DotHost where

namespace DotHost

def node : Node := .escaped ⟨[]⟩ Position.start

def code : Code :=
  ⟨"", #[21, 11, 1], #[], #[], #[], #[], #[⟨1, 1⟩, ⟨1, 1⟩, ⟨1, 1⟩]⟩

instance : Host DotHost where
  partial? host _ := (.ok none, host)
  expand host _ _ := (.ok code, host)
  ambient? _ := none

def trees : TreeHost DotHost where
  partial? host _ := (.ok none, host)
  expand host _ _ := (.ok node, host)

theorem generates : node.Generates code := ⟨"", rfl⟩

theorem generated : Host.Generated DotHost where
  partial? _ _ _ answered := nomatch answered
  expand _ _ _ _ answered := ⟨node, Except.ok.inj answered ▸ generates⟩

theorem compiles : trees.Compiles where
  partial? _ _ := ⟨.ok none none .none, rfl⟩
  expand _ _ _ := ⟨.ok node code generates, rfl⟩

end DotHost

end Mustache
