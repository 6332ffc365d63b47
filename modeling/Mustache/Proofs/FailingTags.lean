import Mustache.Proofs.HostAnswers
import Mustache.Proofs.Termination

/-!
# The tag that fails

A render fails at a tag that calls for another template: no level is left, or the host refuses.
`Node.FailsAt` follows the walk over a tree to that tag, through sections, iterations, partials and
expansions. Each of these tries to blame the error on itself when it comes by, and none succeeds,
because the tag that failed was there first.
-/

namespace Mustache

set_option autoImplicit false

variable {State Result Other : Type}

namespace Run

theorem bind_error {first : Run State Result} {next : Result → Run State Other}
    {state : RunState State} {reason : Stop} :
    ((first >>= next) state).1 = .error reason ↔
      (first state).1 = .error reason ∨
        ∃ result after, first state = (.ok result, after) ∧ (next result after).1 = .error reason := by
  simp only [bind_def, andThen]
  cases first state with
  | mk outcome after =>
    cases outcome with
    | error stopped => simp
    | ok result => simp

/-- An iteration stops at an item, with the items before it done. -/
theorem forEach_error {body : Value → Run State Unit} {items : List Value}
    {state : RunState State} {reason : Stop} :
    (forEach body items state).1 = .error reason ↔
      ∃ before item after middle, items = before ++ item :: after ∧
        forEach body before state = (.ok (), middle) ∧ (body item middle).1 = .error reason := by
  induction items generalizing state with
  | nil => simp [forEach, done]
  | cons first items ih =>
    change ((body first >>= fun _ => forEach body items) state).1 = _ ↔ _
    rw [bind_error]
    constructor
    · rintro (failed | ⟨_, next, passed, failed⟩)
      · exact ⟨[], first, items, state, rfl, rfl, failed⟩
      · obtain ⟨before, item, after, middle, rfl, earlier, stopped⟩ := ih.1 failed
        refine ⟨first :: before, item, after, middle, rfl, ?_, stopped⟩
        change (body first >>= fun _ => forEach body before) state = _
        simp only [bind_def, andThen, passed]
        exact earlier
    · rintro ⟨before, item, after, middle, split, earlier, stopped⟩
      cases before with
      | nil =>
        cases split
        cases earlier
        exact .inl stopped
      | cons head before =>
        cases split
        change (body first >>= fun _ => forEach body before) state = _ at earlier
        simp only [bind_def, andThen] at earlier
        cases ran : body first state with
        | mk outcome next =>
          rw [ran] at earlier
          cases outcome with
          | error other => cases earlier
          | ok _ => exact .inr ⟨(), next, rfl, ih.2 ⟨before, item, after, middle, rfl, earlier, stopped⟩⟩

end Run

namespace Node

/-- A tag that calls for another template, and its place. -/
inductive Calls : Node → Position → Prop where
  | partialTag (name indentation : String) (position : Position) :
      Calls (.partialTag name indentation position) position
  | block (path : Path) (body : List Node) (raw : String) (pair : Delimiters)
      (position : Position) : Calls (.block path body raw pair position) position

/-- Walking the tree from the state comes to the tag, which cannot call for another template for the
given cause. `remaining` partials and expansions may still be entered inside one another. -/
inductive FailsAt (trees : TreeHost State) (limit : Nat) :
    Nat → Node → RunState State → Node → RunCause → Prop where
  /-- The children before the one that fails are done. -/
  | child {remaining : Nat} {before : List Node} {node : Node} (after : List Node)
      {state middle : RunState State} {tag : Node} {cause : RunCause}
      (passed : evaluateAll trees limit remaining before state = (.ok (), middle))
      (fails : FailsAt trees limit remaining node middle tag cause) :
      FailsAt trees limit remaining (.sequence (before ++ node :: after)) state tag cause
  | once {remaining : Nat} {path : Path} {body : List Node} (raw : String) (pair : Delimiters)
      (position : Position) {state : RunState State} {tag : Node} {cause : RunCause}
      (planned : SectionPlan.of (state.context.resolve path.segments) = .once)
      (fails : FailsAt trees limit remaining (.sequence body) state tag cause) :
      FailsAt trees limit remaining (.block path body raw pair position) state tag cause
  | enter {remaining : Nat} {path : Path} {body : List Node} (raw : String) (pair : Delimiters)
      (position : Position) {state : RunState State} {frame : Value} {tag : Node}
      {cause : RunCause}
      (planned : SectionPlan.of (state.context.resolve path.segments) = .enter frame)
      (fails : FailsAt trees limit remaining (.sequence body)
        { state with context := state.context.push frame } tag cause) :
      FailsAt trees limit remaining (.block path body raw pair position) state tag cause
  | item {remaining : Nat} {path : Path} {body : List Node} (raw : String) (pair : Delimiters)
      (position : Position) {state middle : RunState State} {before after : List Value}
      {item : Value} {tag : Node} {cause : RunCause}
      (planned : SectionPlan.of (state.context.resolve path.segments) =
        .iterate (before ++ item :: after))
      (passed : Run.forEach (fun item => Run.withFrame item
        (evaluateAll trees limit remaining body)) before state = (.ok (), middle))
      (fails : FailsAt trees limit remaining (.sequence body)
        { middle with context := middle.context.push item } tag cause) :
      FailsAt trees limit remaining (.block path body raw pair position) state tag cause
  | inverted {remaining : Nat} {path : Path} {body : List Node} (position : Position)
      {state : RunState State} {tag : Node} {cause : RunCause}
      (falsy : (state.context.resolve path.segments).isFalsy = true)
      (fails : FailsAt trees limit remaining (.sequence body) state tag cause) :
      FailsAt trees limit remaining (.inverted path body position) state tag cause
  /-- No level is left for the text of a callable. -/
  | expansionTooDeep {path : Path} (body : List Node) {raw : String} {pair : Delimiters}
      (position : Position) {state : RunState State} {callable : Callable Value}
      (planned : SectionPlan.of (state.context.resolve path.segments) = .expand callable)
      (tagged : Text.contains pair.opening.toList (callable.apply raw).text.toList = true) :
      FailsAt trees limit 0 (.block path body raw pair position) state
        (.block path body raw pair position) (.depthExceeded limit)
  /-- The host does not compile the text of a callable. -/
  | expansionRefused {below : Nat} {path : Path} (body : List Node) {raw : String}
      {pair : Delimiters} (position : Position) {state : RunState State}
      {callable : Callable Value} {error : RunError}
      (planned : SectionPlan.of (state.context.resolve path.segments) = .expand callable)
      (tagged : Text.contains pair.opening.toList (callable.apply raw).text.toList = true)
      (refused : (trees.expand state.host (callable.apply raw).text pair).1 = .error error) :
      FailsAt trees limit (below + 1) (.block path body raw pair position) state
        (.block path body raw pair position) error.cause
  | expansion {below : Nat} {path : Path} (body : List Node) {raw : String} {pair : Delimiters}
      (position : Position) {state : RunState State} {callable : Callable Value} {inner : Node}
      {host : State} {tag : Node} {cause : RunCause}
      (planned : SectionPlan.of (state.context.resolve path.segments) = .expand callable)
      (tagged : Text.contains pair.opening.toList (callable.apply raw).text.toList = true)
      (answered : trees.expand state.host (callable.apply raw).text pair = (.ok inner, host))
      (fails : FailsAt trees limit below inner { state with host } tag cause) :
      FailsAt trees limit (below + 1) (.block path body raw pair position) state tag cause
  /-- No level is left for a partial. -/
  | partialTooDeep (name indentation : String) (position : Position) (state : RunState State) :
      FailsAt trees limit 0 (.partialTag name indentation position) state
        (.partialTag name indentation position) (.depthExceeded limit)
  /-- The host has an error instead of the partial. -/
  | partialRefused {below : Nat} {name : String} (indentation : String) (position : Position)
      {state : RunState State} {error : RunError}
      (refused : (trees.partial? state.host name).1 = .error error) :
      FailsAt trees limit (below + 1) (.partialTag name indentation position) state
        (.partialTag name indentation position) error.cause
  | template {below : Nat} {name : String} (indentation : String) (position : Position)
      {state : RunState State} {inner : Node} {host : State} {tag : Node} {cause : RunCause}
      (answered : trees.partial? state.host name = (.ok (some inner), host))
      (fails : FailsAt trees limit below inner
        { state with
          host
          output := if indentation.isEmpty then state.output
            else Output.empty state.output.escaping } tag cause) :
      FailsAt trees limit (below + 1) (.partialTag name indentation position) state tag cause

end Node

/-- The host does not say where its errors arose. -/
structure Host.Unplaced (State : Type) [Host State] : Prop where
  partial? : ∀ (state : State) (name : String) (error : RunError),
    (Host.partial? state name).1 = .error error → error.location = none
  expand : ∀ (state : State) (text : String) (pair : Delimiters) (error : RunError),
    (Host.expand state text pair).1 = .error error → error.location = none

structure TreeHost.Unplaced (trees : TreeHost State) : Prop where
  partial? : ∀ (state : State) (name : String) (error : RunError),
    (trees.partial? state name).1 = .error error → error.location = none
  expand : ∀ (state : State) (text : String) (pair : Delimiters) (error : RunError),
    (trees.expand state text pair).1 = .error error → error.location = none

theorem Answers.of_error {Tree : Type} {fits : Tree → Result → Prop}
    {left : Except RunError Tree} {right : Except RunError Result} (answers : Answers fits left right)
    {error : RunError} (failed : left = .error error) : right = .error error := by
  cases answers with
  | error reason =>
    cases failed
    rfl
  | ok tree result fit => cases failed

theorem TreeHost.Compiles.unplaced [Host State] {trees : TreeHost State}
    (compiles : trees.Compiles) (unplaced : Host.Unplaced State) : trees.Unplaced where
  partial? state name error failed :=
    unplaced.partial? state name error ((compiles.partial? state name).1.of_error failed)
  expand state text pair error failed :=
    unplaced.expand state text pair error ((compiles.expand state text pair).1.of_error failed)

namespace Node

variable {trees : TreeHost State} {limit remaining : Nat}

/-- Where a callable leads on the walk. -/
def walkCallable (trees : TreeHost State) (limit remaining : Nat) (raw : String)
    (pair : Delimiters) (callable : Callable Value) : Run State Unit :=
  let text := (callable.apply raw).text
  if Text.contains pair.opening.toList text.toList then
    match remaining with
    | 0 => Run.fail (.depthExceeded limit)
    | below + 1 => do
      let expansion ← Run.ask fun host => trees.expand host text pair
      evaluate trees limit below expansion
  else Run.write text

theorem evaluate_block (path : Path) (body : List Node) (raw : String) (pair : Delimiters)
    (position : Position) (state : RunState State) :
    evaluate trees limit remaining (.block path body raw pair position) state =
      Run.located (locationAt position)
        (match SectionPlan.of (state.context.resolve path.segments) with
          | .skip => pure ()
          | .once => evaluateAll trees limit remaining body
          | .enter frame => Run.withFrame frame (evaluateAll trees limit remaining body)
          | .iterate items =>
            Run.forEach (fun item => Run.withFrame item (evaluateAll trees limit remaining body)) items
          | .expand callable => walkCallable trees limit remaining raw pair callable) state := by
  calc
    _ = Run.located (locationAt position) (Run.table (evaluateAll trees limit remaining body)
          (walkCallable trees limit remaining raw pair)
          (state.context.resolve path.segments)) state := by
      rw [evaluate]
      rfl
    _ = _ := congrArg (fun body => Run.located (locationAt position) body state)
      (Run.plan_eq_table _ _ _).symm

theorem evaluateAll_append (left right : List Node) :
    evaluateAll trees limit remaining (left ++ right) =
      (evaluateAll trees limit remaining left >>= fun _ =>
        evaluateAll trees limit remaining right) := by
  induction left with
  | nil => rw [evaluateAll, pure_bind, List.nil_append]
  | cons first left ih => rw [List.cons_append, evaluateAll, evaluateAll, ih, bind_assoc]

/-- The stop whose reason is at the tag in this place. -/
def blame (cause : RunCause) (position : Position) : Stop := .error ⟨cause, locationAt position⟩

end Node

/-- A stop that has passed a tag: an error without a place has got one. -/
def Stop.placed (location : Option Location) : Stop → Stop
  | .error failure => .error (failure.orLocation location)
  | .fault defect => .fault defect

theorem Stop.placed_unplaced {failure : RunError} (unplaced : failure.location = none)
    (position : Position) :
    (Stop.error failure).placed (Node.locationAt position) =
      Node.blame failure.cause position := by
  obtain ⟨cause, place⟩ := failure
  cases unplaced
  rfl

namespace Run

variable {state : RunState State} {reason : Stop}

theorem located_error {location : Option Location} {body : Run State Result} :
    (located location body state).1 = .error reason ↔
      ∃ earlier, (body state).1 = .error earlier ∧ reason = earlier.placed location := by
  rw [located_apply]
  cases (body state).1 with
  | ok result => simp
  | error earlier => cases earlier <;> simp [Stop.placed, eq_comm]

theorem located_blame {location : Option Location} {body : Run State Result} {cause : RunCause}
    {position : Position} (failed : (body state).1 = .error (Node.blame cause position)) :
    (located location body state).1 = .error (Node.blame cause position) :=
  located_error.2 ⟨_, failed, rfl⟩

theorem indented_fst (indentation : String) (body : Run State Unit) (state : RunState State) :
    (indented indentation body state).1 =
      (body { state with output := Output.empty state.output.escaping }).1 := by
  unfold indented
  dsimp only
  cases body { state with output := Output.empty state.output.escaping } with
  | mk outcome after => cases outcome <;> rfl

theorem ask_bind_error {question : State → Except RunError Result × State}
    {next : Result → Run State Other} :
    ((ask question >>= next) state).1 = .error reason ↔
      (∃ error, (question state.host).1 = .error error ∧ reason = .error error) ∨
        ∃ result host, question state.host = (.ok result, host) ∧
          (next result { state with host }).1 = .error reason := by
  simp only [bind_def, andThen, ask]
  cases question state.host with
  | mk answer host =>
    cases answer with
    | error error => simp [Except.mapError, eq_comm]
    | ok result => simp [Except.mapError]

end Run

namespace Node

variable {trees : TreeHost State} {limit remaining : Nat} {node tag : Node}
  {state : RunState State} {cause : RunCause} {position : Position}

section Expansion

variable {raw : String} {pair : Delimiters} {callable : Callable Value}

theorem walkCallable_tooDeep
    (tagged : Text.contains pair.opening.toList (callable.apply raw).text.toList = true) :
    walkCallable trees limit 0 raw pair callable = Run.fail (.depthExceeded limit) := by
  unfold walkCallable
  dsimp only
  rw [if_pos tagged]

theorem walkCallable_expand {below : Nat}
    (tagged : Text.contains pair.opening.toList (callable.apply raw).text.toList = true) :
    walkCallable trees limit (below + 1) raw pair callable =
      (Run.ask (fun host => trees.expand host (callable.apply raw).text pair) >>= fun expansion =>
        evaluate trees limit below expansion) := by
  unfold walkCallable
  dsimp only
  rw [if_pos tagged]

theorem walkCallable_untagged
    (untagged : ¬ Text.contains pair.opening.toList (callable.apply raw).text.toList = true) :
    walkCallable trees limit remaining raw pair callable =
      Run.write (callable.apply raw).text := by
  unfold walkCallable
  dsimp only
  rw [if_neg untagged]

end Expansion

/-- A walk into the template of a partial. -/
theorem enter_fst (below : Nat) (indentation : String) (inner : Node) (state : RunState State) :
    ((if indentation.isEmpty then evaluate trees limit below inner
      else Run.indented indentation (evaluate trees limit below inner)) state).1 =
    (evaluate trees limit below inner { state with
      output := if indentation.isEmpty then state.output
        else Output.empty state.output.escaping }).1 := by
  cases indentation.isEmpty with
  | true => rfl
  | false => exact Run.indented_fst _ _ _

/-- Where the walk comes to a tag that fails, the walk ends in an error of that tag. -/
theorem evaluate_of_failsAt (unplaced : trees.Unplaced)
    (fails : FailsAt trees limit remaining node state tag cause) (calls : tag.Calls position) :
    (evaluate trees limit remaining node state).1 = .error (blame cause position) := by
  induction fails with
  | @child remaining before node after state middle tag cause passed fails ih =>
    rw [evaluate, evaluateAll_append, Run.bind_error]
    refine .inr ⟨(), middle, passed, ?_⟩
    rw [evaluateAll, Run.bind_error]
    exact .inl (ih calls)
  | once raw pair position planned fails ih =>
    have failed := ih calls
    rw [evaluate] at failed
    rw [evaluate_block, planned]
    exact Run.located_blame failed
  | enter raw pair position planned fails ih =>
    have failed := ih calls
    rw [evaluate] at failed
    rw [evaluate_block, planned]
    exact Run.located_blame failed
  | item raw pair position planned passed fails ih =>
    have failed := ih calls
    rw [evaluate] at failed
    rw [evaluate_block, planned]
    exact Run.located_blame (Run.forEach_error.2 ⟨_, _, _, _, rfl, passed, failed⟩)
  | @inverted remaining path body position state tag cause falsy fails ih =>
    have failed := ih calls
    rw [evaluate] at failed
    have entered : ((valueOf path >>= fun value =>
        if value.isFalsy then evaluateAll trees limit remaining body else pure ()) state) =
          evaluateAll trees limit remaining body state := by
      change (if (state.context.resolve path.segments).isFalsy then
        evaluateAll trees limit remaining body else pure ()) state = _
      rw [if_pos falsy]
    rw [evaluate]
    exact Run.located_blame (by rw [entered, failed])
  | expansionTooDeep body position planned tagged =>
    cases calls
    rw [evaluate_block, planned]
    dsimp only
    rw [walkCallable_tooDeep tagged]
    rfl
  | expansionRefused body position planned tagged refused =>
    cases calls
    rw [evaluate_block, planned]
    dsimp only
    rw [walkCallable_expand tagged]
    exact Run.located_error.2 ⟨_, Run.ask_bind_error.2 (.inl ⟨_, refused, rfl⟩),
      (Stop.placed_unplaced (unplaced.expand _ _ _ _ refused) position).symm⟩
  | expansion body position planned tagged answered fails ih =>
    rw [evaluate_block, planned]
    dsimp only
    rw [walkCallable_expand tagged]
    exact Run.located_blame (Run.ask_bind_error.2 (.inr ⟨_, _, answered, ih calls⟩))
  | partialTooDeep name indentation position state =>
    cases calls
    rw [evaluate]
    rfl
  | partialRefused indentation position refused =>
    cases calls
    rw [evaluate]
    exact Run.located_error.2 ⟨_, Run.ask_bind_error.2 (.inl ⟨_, refused, rfl⟩),
      (Stop.placed_unplaced (unplaced.partial? _ _ _ refused) position).symm⟩
  | template indentation position answered fails ih =>
    rw [evaluate]
    exact Run.located_blame (Run.ask_bind_error.2
      (.inr ⟨_, _, answered, (enter_fst _ _ _ _).trans (ih calls)⟩))

/-- The walk from the state comes to a tag that fails, and the stop blames that tag. -/
def Blames (trees : TreeHost State) (limit remaining : Nat) (node : Node) (state : RunState State)
    (reason : Stop) : Prop :=
  ∃ tag position cause, FailsAt trees limit remaining node state tag cause ∧
    tag.Calls position ∧ reason = blame cause position

section Error

variable {reason : Stop}

theorem FailsAt.head (rest : List Node)
    (fails : FailsAt trees limit remaining node state tag cause) :
    FailsAt trees limit remaining (.sequence (node :: rest)) state tag cause := by
  have nothing : evaluateAll trees limit remaining [] state = (.ok (), state) := by
    rw [evaluateAll]
    rfl
  have whole := FailsAt.child rest nothing fails
  exact whole

theorem FailsAt.tail {first : Node} {rest : List Node} {middle : RunState State}
    (passed : evaluate trees limit remaining first state = (.ok (), middle))
    (fails : FailsAt trees limit remaining (.sequence rest) middle tag cause) :
    FailsAt trees limit remaining (.sequence (first :: rest)) state tag cause := by
  cases fails with
  | @child _ before node after _ last _ _ earlier fails =>
    have through : evaluateAll trees limit remaining (first :: before) state = (.ok (), last) := by
      rw [evaluateAll]
      simp only [Run.bind_def, Run.andThen, passed, earlier]
    have whole := FailsAt.child after through fails
    exact whole

/-- At a smaller depth, a walk that ends in an error has come to the tag that it blames. -/
def BlamesBelow (trees : TreeHost State) (limit remaining : Nat) : Prop :=
  ∀ below, remaining = below + 1 → ∀ inner state reason,
    (evaluate trees limit below inner state).1 = .error reason →
      Blames trees limit below inner state reason

/-- Either the section cannot call, or what it called for fails further in. -/
theorem blames_of_walkCallable (unplaced : trees.Unplaced)
    (deeper : BlamesBelow trees limit remaining) {path : Path} (body : List Node) {raw : String}
    {pair : Delimiters} (position : Position) {callable : Callable Value}
    (planned : SectionPlan.of (state.context.resolve path.segments) = .expand callable)
    (failed : (walkCallable trees limit remaining raw pair callable state).1 = .error reason) :
    Blames trees limit remaining (.block path body raw pair position) state
      (reason.placed (locationAt position)) := by
  by_cases tagged : Text.contains pair.opening.toList (callable.apply raw).text.toList = true
  · cases remaining with
    | zero =>
      rw [walkCallable_tooDeep tagged] at failed
      cases failed
      exact ⟨_, position, _, .expansionTooDeep body position planned tagged, .block .., rfl⟩
    | succ below =>
      rw [walkCallable_expand tagged, Run.ask_bind_error] at failed
      rcases failed with ⟨error, refused, rfl⟩ | ⟨inner, host, answered, failed⟩
      · have nowhere := unplaced.expand _ _ _ _ refused
        exact ⟨_, position, _, .expansionRefused body position planned tagged refused, .block ..,
          Stop.placed_unplaced nowhere position⟩
      · obtain ⟨tag, place, cause, fails, calls, rfl⟩ := deeper below rfl inner _ _ failed
        exact ⟨tag, place, cause, .expansion body position planned tagged answered fails, calls,
          rfl⟩
  · rw [walkCallable_untagged tagged] at failed
    cases failed

theorem blames_of_partialTag (unplaced : trees.Unplaced)
    (deeper : BlamesBelow trees limit remaining) (name indentation : String) (position : Position)
    (failed : (evaluate trees limit remaining (.partialTag name indentation position) state).1 =
      .error reason) :
    Blames trees limit remaining (.partialTag name indentation position) state reason := by
  cases remaining with
  | zero =>
    rw [evaluate] at failed
    cases failed
    exact ⟨_, position, _, .partialTooDeep name indentation position state, .partialTag .., rfl⟩
  | succ below =>
    rw [evaluate, Run.located_error] at failed
    obtain ⟨earlier, failed, rfl⟩ := failed
    rcases Run.ask_bind_error.1 failed with
      ⟨error, refused, rfl⟩ | ⟨found, host, answered, failed⟩
    · have nowhere := unplaced.partial? _ _ _ refused
      exact ⟨_, position, _, .partialRefused indentation position refused, .partialTag ..,
        Stop.placed_unplaced nowhere position⟩
    · cases found with
      | none => cases failed
      | some inner =>
        obtain ⟨tag, place, cause, fails, calls, rfl⟩ :=
          deeper below rfl inner _ _ ((enter_fst _ _ _ _).symm.trans failed)
        exact ⟨tag, place, cause, .template indentation position answered fails, calls, rfl⟩

mutual

/-- A walk that ends in an error has come to the tag that it blames. The error of a body has its
place already, so passing the tag of the section leaves it as it is. -/
theorem blames_of_evaluate (unplaced : trees.Unplaced) (deeper : BlamesBelow trees limit remaining)
    (node : Node) {state : RunState State} {reason : Stop}
    (failed : (evaluate trees limit remaining node state).1 = .error reason) :
    Blames trees limit remaining node state reason := by
  cases node with
  | sequence children =>
    rw [evaluate] at failed
    exact blames_of_evaluateAll unplaced deeper children failed
  | text content =>
    rw [evaluate] at failed
    cases failed
  | escaped path position | unescaped path position =>
    rw [evaluate] at failed
    cases failed
  | block path body raw pair position =>
    rw [evaluate_block, Run.located_error] at failed
    obtain ⟨earlier, failed, rfl⟩ := failed
    cases planned : SectionPlan.of (state.context.resolve path.segments) with
    | skip =>
      rw [planned] at failed
      cases failed
    | once =>
      rw [planned] at failed
      obtain ⟨tag, place, cause, fails, calls, rfl⟩ :=
        blames_of_evaluateAll unplaced deeper body failed
      exact ⟨tag, place, cause, .once raw pair position planned fails, calls, rfl⟩
    | enter frame =>
      rw [planned] at failed
      obtain ⟨tag, place, cause, fails, calls, rfl⟩ :=
        blames_of_evaluateAll unplaced deeper body failed
      exact ⟨tag, place, cause, .enter raw pair position planned fails, calls, rfl⟩
    | iterate items =>
      rw [planned] at failed
      obtain ⟨before, item, after, middle, rfl, passed, failed⟩ := Run.forEach_error.1 failed
      obtain ⟨tag, place, cause, fails, calls, rfl⟩ :=
        blames_of_evaluateAll unplaced deeper body failed
      exact ⟨tag, place, cause, .item raw pair position planned passed fails, calls, rfl⟩
    | expand callable =>
      rw [planned] at failed
      exact blames_of_walkCallable unplaced deeper body position planned failed
  | inverted path body position =>
    rw [evaluate, Run.located_error] at failed
    obtain ⟨earlier, failed, rfl⟩ := failed
    change ((if (state.context.resolve path.segments).isFalsy then
      evaluateAll trees limit remaining body else pure ()) state).1 = _ at failed
    by_cases falsy : (state.context.resolve path.segments).isFalsy = true
    · rw [if_pos falsy] at failed
      obtain ⟨tag, place, cause, fails, calls, rfl⟩ :=
        blames_of_evaluateAll unplaced deeper body failed
      exact ⟨tag, place, cause, .inverted position falsy fails, calls, rfl⟩
    · rw [if_neg falsy] at failed
      cases failed
  | partialTag name indentation position =>
    exact blames_of_partialTag unplaced deeper name indentation position failed
  | comment content position | delimiters pair position =>
    rw [evaluate] at failed
    cases failed

theorem blames_of_evaluateAll (unplaced : trees.Unplaced)
    (deeper : BlamesBelow trees limit remaining) (nodes : List Node) {state : RunState State}
    {reason : Stop} (failed : (evaluateAll trees limit remaining nodes state).1 = .error reason) :
    Blames trees limit remaining (.sequence nodes) state reason := by
  cases nodes with
  | nil =>
    rw [evaluateAll] at failed
    cases failed
  | cons first rest =>
    rw [evaluateAll, Run.bind_error] at failed
    rcases failed with failed | ⟨_, middle, passed, failed⟩
    · obtain ⟨tag, place, cause, fails, calls, rfl⟩ := blames_of_evaluate unplaced deeper first failed
      exact ⟨tag, place, cause, fails.head rest, calls, rfl⟩
    · obtain ⟨tag, place, cause, fails, calls, rfl⟩ :=
        blames_of_evaluateAll unplaced deeper rest failed
      exact ⟨tag, place, cause, fails.tail passed, calls, rfl⟩

end

theorem evaluate_error (unplaced : trees.Unplaced) (node : Node) (state : RunState State)
    (reason : Stop) :
    (evaluate trees limit remaining node state).1 = .error reason ↔
      Blames trees limit remaining node state reason := by
  constructor
  · -- A partial or an expansion is a tree of its own, one level deeper.
    induction remaining generalizing node state reason with
    | zero =>
      exact blames_of_evaluate unplaced (by intro below impossible; omega) node
    | succ remaining ih =>
      refine blames_of_evaluate unplaced ?_ node
      intro below same inner state reason failed
      cases same
      exact ih inner state reason failed
  · rintro ⟨tag, position, cause, fails, calls, rfl⟩
    exact evaluate_of_failsAt unplaced fails calls

end Error

end Node

/-- The error of a render is that of the tag that failed. On a host of generated code whose errors
have no place there are trees for all answers; for any such trees, a run of the code of a tree ends
in an error exactly if the walk comes to a tag that cannot call for another template, and then the
error has the line and the column of that tag and the cause that it failed for. So does a render. No
section, iteration, partial or expansion around the tag puts its own place there. -/
theorem render_blames_tag [Host State] (generated : Host.Generated State)
    (unplaced : Host.Unplaced State) :
    (∃ trees : TreeHost State, trees.Compiles) ∧
    ∀ (trees : TreeHost State), trees.Compiles →
      ∀ (node : Node) (name : String) (code : Code), node.toCode name = .ok code →
        (∀ (limit remaining : Nat) (state : RunState State) (reason : Stop),
          (Run.execute limit remaining (Frame.start code) state).1 = .error reason ↔
            ∃ tag position cause,
              Node.FailsAt trees limit remaining node state tag cause ∧ tag.Calls position ∧
              reason = .error ⟨cause, some ⟨position.lineNumber, position.columnNumber⟩⟩) ∧
        (∀ (machine : Machine) (data : Value) (host : State) (reason : Stop),
          let limit := machine.options.depthLimit
          (machine.render code data host).outcome = .error reason ↔
            ∃ tag position cause,
              Node.FailsAt trees limit limit node (machine.rendering code data host).state tag
                cause ∧ tag.Calls position ∧
              reason = .error ⟨cause, some ⟨position.lineNumber, position.columnNumber⟩⟩) := by
  refine ⟨exists_compiles generated, ?_⟩
  intro trees compiles node name code built
  have ran (limit remaining : Nat) (state : RunState State) (reason : Stop) :
      (Run.execute limit remaining (Frame.start code) state).1 = .error reason ↔
        Node.Blames trees limit remaining node state reason := by
    rw [Run.execute_of_generates compiles node code ⟨name, built⟩]
    exact Node.evaluate_error (compiles.unplaced unplaced) node state reason
  refine ⟨ran, ?_⟩
  intro machine data host reason limit
  have rendered := ran limit limit (machine.rendering code data host).state reason
  have same : (machine.render code data host).outcome =
      (Run.execute limit limit (Frame.start code) (machine.rendering code data host).state).1 := by
    unfold Machine.render Machine.rendering
    cases Host.ambient? host <;> rfl
  rw [same]
  exact rendered

/-- A host whose one partial names another that cannot be read. -/
structure BrokenHost where

namespace BrokenHost

def tag : Node := .partialTag "b" "" ⟨3, 1, 1, 2⟩

def code : Code :=
  ⟨"", #[32, 0, 1, 1], #["b", ""], #[], #[], #[], #[⟨2, 3⟩, ⟨2, 3⟩, ⟨2, 3⟩, ⟨2, 3⟩]⟩

instance : Host BrokenHost where
  partial? host name :=
    (if name = "a" then .ok (some code) else .error (RunError.ofCause (.invalidName name)), host)
  expand host text _ := (.error (RunError.ofCause (.invalidName text)), host)
  ambient? _ := none

def trees : TreeHost BrokenHost where
  partial? host name :=
    (if name = "a" then .ok (some tag) else .error (RunError.ofCause (.invalidName name)), host)
  expand host text _ := (.error (RunError.ofCause (.invalidName text)), host)

/-- The template of the render: an iteration around the partial. -/
def main : Node :=
  .block ⟨[]⟩ [.partialTag "a" "" ⟨5, 0, 0, 5⟩] "" Delimiters.standard Position.start

def mainCode : Code :=
  ⟨"main", #[21, 30, 0, 1], #[], #[], #[⟨0, "", Delimiters.standard⟩],
    #[⟨"", #[32, 0, 1, 1], #["a", ""], #[], #[], #[], #[⟨1, 6⟩, ⟨1, 6⟩, ⟨1, 6⟩, ⟨1, 6⟩]⟩],
    #[⟨1, 1⟩, ⟨1, 1⟩, ⟨1, 1⟩, ⟨1, 1⟩]⟩

theorem toCode_main : main.toCode "main" = .ok mainCode := by cbv

theorem generates : tag.Generates code := ⟨"", by cbv⟩

theorem partial?_eq (host : BrokenHost) (name : String) : (Host.partial? host name).1 =
    if name = "a" then .ok (some code) else .error (RunError.ofCause (.invalidName name)) := rfl

theorem generated : Host.Generated BrokenHost where
  partial? host name found answered := by
    rw [partial?_eq] at answered
    split at answered
    · cases answered
      exact ⟨tag, generates⟩
    · cases answered
  expand _ _ _ _ answered := nomatch answered

theorem unplaced : Host.Unplaced BrokenHost where
  partial? host name error failed := by
    rw [partial?_eq] at failed
    split at failed
    · cases failed
    · cases failed
      rfl
  expand _ _ _ error failed := by
    cases failed
    rfl

theorem compiles : trees.Compiles where
  partial? host name := by
    refine ⟨?_, rfl⟩
    rw [partial?_eq]
    unfold trees
    dsimp only
    split
    · exact .ok _ _ (.some generates)
    · exact .error _
  expand host text _ := ⟨.error _, rfl⟩

end BrokenHost

/-- A partial inside an iteration names an unreadable one in its second line: that line is blamed. -/
theorem render_blames_tag_nested :
    let data := Value.list [.null, .bool true]
    BrokenHost.main.toCode "main" = .ok BrokenHost.mainCode ∧
      ((Machine.new ⟨.html, 2⟩).render BrokenHost.mainCode data (⟨⟩ : BrokenHost)).outcome =
        .error (.error ⟨.invalidName "b", some ⟨2, 3⟩⟩) := by
  intro data
  have blames := (render_blames_tag BrokenHost.generated BrokenHost.unplaced).2 BrokenHost.trees
    BrokenHost.compiles BrokenHost.main "main" BrokenHost.mainCode BrokenHost.toCode_main
  refine ⟨BrokenHost.toCode_main, (blames.2 (Machine.new ⟨.html, 2⟩) data ⟨⟩ _).2
    ⟨BrokenHost.tag, ⟨3, 1, 1, 2⟩, .invalidName "b", ?_, .partialTag .., rfl⟩⟩
  have refused : (BrokenHost.trees.partial? ⟨⟩ "b").1 =
      .error (RunError.ofCause (.invalidName "b")) := rfl
  have fails : Node.FailsAt BrokenHost.trees 2 1 BrokenHost.tag
      ⟨⟨[.null, data]⟩, [], Output.empty .html, ⟨⟩⟩ BrokenHost.tag (.invalidName "b") :=
    .partialRefused "" _ refused
  have answered : BrokenHost.trees.partial? ⟨⟩ "a" = (.ok (some BrokenHost.tag), ⟨⟩) := rfl
  have entered : Node.FailsAt BrokenHost.trees 2 2 (.partialTag "a" "" ⟨5, 0, 0, 5⟩)
      ⟨⟨[.null, data]⟩, [], Output.empty .html, ⟨⟩⟩ BrokenHost.tag (.invalidName "b") :=
    .template "" _ answered fails
  have planned : SectionPlan.of data = .iterate ([] ++ .null :: [.bool true]) := rfl
  exact .item "" _ _ planned rfl (entered.head [])

end Mustache
