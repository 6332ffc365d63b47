import Mathlib
import Mustache.Proofs.MonitoredRuns

/-!
# What a run leaves as it was

Frames are put on the context and taken off, and levels are counted up and down, in different
places, and a run can stop in between. However it ends, the context and the level are those it
began with, and it has done nothing to the output but append to it.
-/

namespace Mustache

set_option autoImplicit false

/-- A host together with the number of templates that are inside one another. -/
structure Counting (State : Type) where
  depth : Nat
  host : State

variable {State : Type}

instance [Host State] : Host (Counting State) where
  partial? counting name :=
    let answer := Host.partial? counting.host name
    (answer.1, { counting with host := answer.2 })
  expand counting text pair :=
    let answer := Host.expand counting.host text pair
    (answer.1, { counting with host := answer.2 })
  ambient? counting := Host.ambient? counting.host

namespace RunState

/-- The state with earlier text in its output. -/
def behind (earlier : String) (state : RunState State) : RunState State :=
  { state with output := { state.output with text := earlier ++ state.output.text } }

theorem behind_empty (state : RunState State) : state.behind "" = state := by
  simp [behind]

def atDepth (depth : Nat) (state : RunState State) : RunState (Counting State) :=
  ⟨state.context, state.stack, state.output, ⟨depth, state.host⟩⟩

theorem atDepth_injective (depth : Nat) {first second : RunState State}
    (same : first.atDepth depth = second.atDepth depth) : first = second := by
  cases first
  cases second
  cases same
  rfl

/-- The state with nothing in its output. -/
def fresh (state : RunState State) : RunState State :=
  { state with output := Output.empty state.output.escaping }

theorem behind_fresh (state : RunState State) : state.fresh.behind state.output.text = state := by
  simp [behind, fresh, Output.empty]

end RunState

namespace Run

variable {Result Other : Type}

/-- Counts one level up before the body and down after it, however it ends. -/
def bracketed (limit : Nat) (body : Run (Counting State) Unit) : Run (Counting State) Unit :=
  fun state =>
    if limit ≤ state.host.depth then fail (.depthExceeded limit) state
    else
      let result := body { state with host := { state.host with depth := state.host.depth + 1 } }
      (result.1,
        { result.2 with host := { result.2.host with depth := result.2.host.depth - 1 } })

/-- At a depth, the counted run does what the plain one does, whatever text stands in the output
before, and restores context and depth. -/
structure Restores (depth : Nat) (counted : Run (Counting State) Result)
    (plain : Run State Result) : Prop where
  same : ∀ (state : RunState State) (earlier : String),
    counted ((state.behind earlier).atDepth depth) =
      ((plain state).1, ((plain state).2.behind earlier).atDepth depth)
  context : ∀ state, (plain state).2.context = state.context
  escaping : ∀ state, (plain state).2.output.escaping = state.output.escaping

namespace Restores

variable {depth : Nat}

theorem alone {counted : Run (Counting State) Result} {plain : Run State Result}
    (restores : Restores depth counted plain) (state : RunState State) :
    counted (state.atDepth depth) = ((plain state).1, (plain state).2.atDepth depth) := by
  have same := restores.same state ""
  rwa [RunState.behind_empty, RunState.behind_empty] at same

/-- A run appends to the output what it writes into an empty one. -/
theorem appends {counted : Run (Counting State) Result} {plain : Run State Result}
    (restores : Restores depth counted plain) (state : RunState State) :
    plain state = ((plain state.fresh).1, { (plain state.fresh).2 with
      output := ⟨state.output.text ++ (plain state.fresh).2.output.text, state.output.escaping⟩ }) := by
  have behind := restores.same state.fresh state.output.text
  rw [RunState.behind_fresh, restores.alone state, Prod.mk.injEq] at behind
  have appended := RunState.atDepth_injective depth behind.2
  have escaping := restores.escaping state.fresh
  simp only [RunState.behind, escaping] at appended
  exact Prod.ext behind.1 appended

theorem bind {first : Run (Counting State) Result} {second : Run State Result}
    {next : Result → Run (Counting State) Other} {later : Result → Run State Other}
    (firsts : Restores depth first second)
    (nexts : ∀ result, Restores depth (next result) (later result)) :
    Restores depth (first >>= next) (second >>= later) := by
  constructor
  · intro state earlier
    have same := firsts.same state earlier
    simp only [bind_def, andThen]
    rw [same]
    cases second state with
    | mk outcome after =>
      cases outcome with
      | error reason => rfl
      | ok result => exact (nexts result).same after earlier
  · intro state
    exact bind_after (fun after => after.context = state.context) (firsts.context state)
      fun result after kept => ((nexts result).context after).trans kept
  · intro state
    exact bind_after (fun after => after.output.escaping = state.output.escaping)
      (firsts.escaping state) fun result after kept => ((nexts result).escaping after).trans kept

variable {first : Run (Counting State) Unit} {second : Run State Unit}

/-- The frame is taken off again, also behind an error. -/
theorem withFrame (frame : Value) (bodies : Restores depth first second) :
    Restores depth (Run.withFrame frame first) (Run.withFrame frame second) := by
  constructor
  · intro state earlier
    have same := bodies.same { state with context := state.context.push frame } earlier
    have entered : { (state.behind earlier).atDepth depth with
        context := ((state.behind earlier).atDepth depth).context.push frame } =
          (RunState.behind earlier
            { state with context := state.context.push frame }).atDepth depth := rfl
    unfold Run.withFrame
    dsimp only
    rw [entered, same]
    rfl
  · intro state
    have kept := bodies.context { state with context := state.context.push frame }
    unfold Run.withFrame
    dsimp only at kept ⊢
    rw [kept]
    rfl
  · intro state
    exact bodies.escaping { state with context := state.context.push frame }

/-- Indented output is appended as a whole, or not at all. -/
theorem indented (indentation : String) (bodies : Restores depth first second) :
    Restores depth (Run.indented indentation first) (Run.indented indentation second) := by
  constructor
  · intro state earlier
    have same := bodies.alone { state with output := Output.empty state.output.escaping }
    have entered : { (state.behind earlier).atDepth depth with
        output := Output.empty ((state.behind earlier).atDepth depth).output.escaping } =
          RunState.atDepth depth { state with output := Output.empty state.output.escaping } := rfl
    unfold Run.indented
    dsimp only
    rw [entered, same]
    cases second { state with output := Output.empty state.output.escaping } with
    | mk outcome after =>
      cases outcome with
      | error reason => rfl
      | ok result =>
        simp [RunState.behind, RunState.atDepth, Output.pushTrusted, String.append_assoc]
  · intro state
    have kept := bodies.context { state with output := Output.empty state.output.escaping }
    unfold Run.indented
    dsimp only at kept ⊢
    cases ran : second { state with output := Output.empty state.output.escaping } with
    | mk outcome after =>
      rw [ran] at kept
      cases outcome with
      | error reason => exact kept
      | ok result => exact kept
  · intro state
    unfold Run.indented
    dsimp only
    cases second { state with output := Output.empty state.output.escaping } with
    | mk outcome after => cases outcome <;> rfl

theorem located (location : Option Location) (bodies : Restores depth first second) :
    Restores depth (Run.located location first) (Run.located location second) := by
  constructor
  · intro state earlier
    rw [located_apply, located_apply, bodies.same]
  · intro state
    rw [located_after]
    exact bodies.context state
  · intro state
    rw [located_after]
    exact bodies.escaping state

/-- One level down, as long as the limit allows. -/
theorem bracketed {limit : Nat} (allowed : depth < limit)
    (bodies : Restores (depth + 1) first second) :
    Restores depth (Run.bracketed limit first) second := by
  constructor
  · intro state earlier
    have same := bodies.same state earlier
    unfold Run.bracketed
    have entered : { (state.behind earlier).atDepth depth with
        host := { ((state.behind earlier).atDepth depth).host with
          depth := ((state.behind earlier).atDepth depth).host.depth + 1 } } =
            (state.behind earlier).atDepth (depth + 1) := rfl
    rw [if_neg (show ¬ limit ≤ ((state.behind earlier).atDepth depth).host.depth from
      Nat.not_le.2 allowed), entered, same]
    rfl
  · exact bodies.context
  · exact bodies.escaping

theorem bracketed_exceeded {limit : Nat} (exceeded : limit ≤ depth) :
    Restores depth (Run.bracketed limit first)
      (fail (.depthExceeded limit) : Run State Unit) := by
  constructor
  · intro state earlier
    unfold Run.bracketed
    rw [if_pos (show limit ≤ ((state.behind earlier).atDepth depth).host.depth from exceeded)]
    rfl
  · intro state
    rfl
  · intro state
    rfl

theorem closed [Host State] (depth : Nat) :
    Closed fun {Result} (counted : Run (Counting State) Result) plain =>
      Restores depth counted plain where
  stop reason := ⟨fun _ _ => rfl, fun _ => rfl, fun _ => rfl⟩
  done result := ⟨fun _ _ => rfl, fun _ => rfl, fun _ => rfl⟩
  bind firsts nexts := firsts.bind nexts
  pushValue value := ⟨fun _ _ => rfl, fun _ => rfl, fun _ => rfl⟩
  fromContext read := ⟨fun _ _ => rfl, fun _ => rfl, fun _ => rfl⟩
  write text := by
    constructor
    · intro state earlier
      simp [write, RunState.behind, RunState.atDepth, Output.pushTrusted, String.append_assoc]
    · intro state
      rfl
    · intro state
      rfl
  writeEscaped text := by
    constructor
    · intro state earlier
      simp [writeEscaped, RunState.behind, RunState.atDepth, Output.pushTrusted,
        Output.pushEscaped, String.append_assoc]
    · intro state
      rfl
    · intro state
      rfl
  withFrame frame _ _ bodies := bodies.withFrame frame
  indented indentation _ _ bodies := bodies.indented indentation
  located location _ _ bodies := bodies.located location
  partial? name := ⟨fun _ _ => rfl, fun _ => rfl, fun _ => rfl⟩
  expand text pair := ⟨fun _ _ => rfl, fun _ => rfl, fun _ => rfl⟩

theorem popValue : Restores depth (Run.popValue : Run (Counting State) Value) Run.popValue := by
  have taken {Any : Type} (state : RunState Any) :
      Run.popValue state = (.ok (state.stack.head?.getD .null), { state with
        stack := state.stack.tail }) := by
    obtain ⟨context, stack, output, host⟩ := state
    cases stack <;> rfl
  constructor
  · intro state earlier
    rw [taken, taken]
    rfl
  · intro state
    rw [taken]
  · intro state
    rw [taken]

end Restores

end Run

/-- Counts the templates that are inside one another. -/
def Monitor.counter (limit : Nat) : Monitor (Counting State) :=
  ⟨Run.popValue, id, Run.bracketed limit⟩

variable [Host State]

/-- Counted from a depth, the machine runs with the levels that remain there. -/
theorem Monitor.restores_execute (limit : Nat) (remaining : Nat) (frame : Frame) :
    ∀ depth fuel : Nat, remaining = limit - depth → remaining ≤ fuel →
      Run.Restores depth ((counter limit).execute limit fuel frame)
        (Run.execute limit remaining frame : Run State Unit) := by
  induction remaining, frame using Frame.descent with
  | step remaining frame inside deeper later =>
    intro depth fuel level enough
    -- What is run one level deeper is related at the next depth, everything else at this one.
    have closed := @Run.Restores.closed State _ depth
    apply closed.execute (counter limit)
    · intro instruction
      rw [Run.perform_eq_effect]
      apply closed.effect (@Run.Restores.closed State _ (depth + 1)) Run.Restores.popValue
      · intro child found
        exact inside child found depth fuel level enough
      · intro body bodyOther related
        cases remaining with
        | zero => exact Run.Restores.bracketed_exceeded (by omega)
        | succ below =>
          cases fuel with
          | zero => omega
          | succ fuel =>
            apply Run.Restores.bracketed (by omega)
            apply related
            intro template
            exact deeper below template rfl (depth + 1) fuel (by omega) (by omega)
    · intro next same shorter
      exact later next same shorter depth fuel level enough

namespace Run

/-- A run that leaves the output as it was if it stops. -/
def Atomic (run : Run State Unit) : Prop :=
  ∀ (state : RunState State) (reason : Stop), (run state).1 = .error reason →
    (run state).2.output = state.output

omit [Host State] in
theorem Atomic.bind {Result : Type} {first : Run State Result} {next : Result → Run State Unit}
    (silent : ∀ state, (first state).2.output = state.output)
    (atomic : ∀ result, Atomic (next result)) : Atomic (first >>= next) := by
  intro state reason stopped
  have kept := silent state
  simp only [bind_def, andThen] at stopped ⊢
  cases ran : first state with
  | mk outcome after =>
    rw [ran] at kept stopped
    cases outcome with
    | error failure => exact kept
    | ok result => exact (atomic result after reason stopped).trans kept

omit [Host State] in
theorem atomic_indented (indentation : String) (body : Run State Unit) :
    Atomic (indented indentation body) := by
  intro state reason stopped
  unfold indented at stopped ⊢
  dsimp only at stopped ⊢
  cases ran : body { state with output := Output.empty state.output.escaping } with
  | mk outcome after =>
    rw [ran] at stopped
    cases outcome with
    | error failure => rfl
    | ok result => cases stopped

/-- An indented partial writes all of its output or nothing. -/
theorem atomic_partialTag (limit remaining : Nat) {code : Code} (nameIndex : Nat)
    {indentationIndex : Nat} {indentation : String}
    (known : code.constants[indentationIndex]? = some indentation)
    (filled : indentation.isEmpty = false) :
    Atomic (perform limit remaining code (.partialTag nameIndex indentationIndex) :
      Run State Unit) := by
  rw [perform_eq_effect]
  apply Atomic.bind
  · intro state
    cases code.constants[nameIndex]? <;> rfl
  · intro name
    have entered : fromPool .textConstants indentationIndex (some indentation) =
        (pure indentation : Run State String) := rfl
    rw [known, entered, pure_bind]
    cases remaining with
    | zero =>
      intro state reason _
      rfl
    | succ below =>
      apply Atomic.bind (fun _ => rfl)
      intro found
      cases found with
      | none =>
        intro state reason _
        rfl
      | some template =>
        dsimp only
        rw [if_neg (by simp [filled])]
        exact atomic_indented indentation _

end Run

/-- A render leaves the context and the count of levels as it found them, whatever code it runs and
however it ends, and appends to the output what it would write into an empty one. The counted
machine is the machine itself at the depth it starts from; an indented partial that stops appends
nothing. -/
theorem execute_restores (limit : Nat) (code : Code) :
    (∀ (depth : Nat) (state : RunState State),
      let plain := Run.execute limit (limit - depth) (Frame.start code) state
      let counted := (Monitor.counter limit).run limit limit code (state.atDepth depth)
      let alone := (Monitor.counter limit).run limit limit code (state.fresh.atDepth depth)
      counted = (plain.1, plain.2.atDepth depth) ∧
        counted.2.context = state.context ∧ counted.2.host.depth = depth ∧
        counted = (alone.1, { alone.2 with
          output := ⟨state.output.text ++ alone.2.output.text, state.output.escaping⟩ })) ∧
    (∀ (machine : Machine) (host : State) (output : Output),
      let finished := machine.renderInto code host output
      let alone := machine.renderInto code host (Output.empty output.escaping)
      finished.machine.context = machine.context ∧
        finished = { alone with
          output := ⟨output.text ++ alone.output.text, output.escaping⟩ }) ∧
    ∀ (remaining nameIndex indentationIndex : Nat) (indentation : String)
      (state : RunState State) (reason : Stop),
      code.constants[indentationIndex]? = some indentation → indentation.isEmpty = false →
      (Run.perform limit remaining code (.partialTag nameIndex indentationIndex) state).1 =
        .error reason →
      (Run.perform limit remaining code (.partialTag nameIndex indentationIndex) state).2.output =
        state.output := by
  have restores (limit depth : Nat) := @Monitor.restores_execute State _ limit
    (limit - depth) (Frame.start code) depth limit rfl (Nat.sub_le _ _)
  refine ⟨?_, ?_, ?_⟩
  · intro depth state plain counted alone
    have same : counted = (plain.1, plain.2.atDepth depth) := (restores limit depth).alone state
    have sameAlone : alone = (_, RunState.atDepth depth _) :=
      (restores limit depth).alone state.fresh
    have appends := (restores limit depth).appends state
    refine ⟨same, ?_, ?_, ?_⟩
    · rw [same]
      exact (restores limit depth).context state
    · rw [same]
      rfl
    · rw [same, sameAlone]
      change ((Run.execute limit (limit - depth) (Frame.start code) state).1,
        (Run.execute limit (limit - depth) (Frame.start code) state).2.atDepth depth) = _
      rw [appends]
      rfl
  · intro machine host output
    have appends := (restores machine.options.depthLimit 0).appends
      ⟨machine.context, machine.stack, output, host⟩
    have context := (restores machine.options.depthLimit 0).context
      ⟨machine.context, machine.stack, output, host⟩
    rw [Nat.sub_zero] at appends context
    refine ⟨context, ?_⟩
    unfold Machine.renderInto
    dsimp only
    rw [appends]
    rfl
  · intro remaining nameIndex indentationIndex indentation state reason known filled
    exact Run.atomic_partialTag limit remaining nameIndex known filled state reason

/-- A host whose only template writes a letter and then itself, indented. -/
structure EchoHost where

namespace EchoHost

def code : Code :=
  ⟨"", #[10, 0, 32, 1, 2, 1], #["x", "echo", " "], #[], #[], #[], #[]⟩

instance : Host EchoHost where
  partial? host _ := (.ok (some code), host)
  expand host _ _ := (.ok code, host)
  ambient? _ := none

def state : RunState EchoHost := ⟨⟨[.null]⟩, [], ⟨"a", .html⟩, ⟨⟩⟩

end EchoHost

theorem execute_restores_echo :
    let counted := (Monitor.counter 2).run 2 2 EchoHost.code (EchoHost.state.atDepth 1)
    counted.1 = .error (.error (RunError.ofCause (.depthExceeded 2))) ∧
      counted.2.output.text = "ax" ∧ counted.2.host.depth = 1 ∧
      counted.2.context = EchoHost.state.context ∧
      (Run.perform 2 1 EchoHost.code (.partialTag 1 2) EchoHost.state).2.output =
        EchoHost.state.output := by
  intro counted
  obtain ⟨restores, -, atomic⟩ := @execute_restores EchoHost _ 2 EchoHost.code
  obtain ⟨same, context, depth, -⟩ := restores 1 EchoHost.state
  have ran : Run.execute 2 (2 - 1) (Frame.start EchoHost.code) EchoHost.state =
      (.error (.error (RunError.ofCause (.depthExceeded 2))),
        ⟨⟨[.null]⟩, [], ⟨"ax", .html⟩, ⟨⟩⟩) := by cbv
  have performed : (Run.perform 2 1 EchoHost.code (.partialTag 1 2) EchoHost.state).1 =
      .error (.error (RunError.ofCause (.depthExceeded 2))) := by cbv
  rw [ran] at same
  exact ⟨congrArg Prod.fst same, congrArg (fun result => result.2.output.text) same, depth, context,
    atomic 1 1 2 " " EchoHost.state _ rfl rfl performed⟩

end Mustache
