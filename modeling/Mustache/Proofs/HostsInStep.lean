import Mustache.Proofs.MonitoredRuns

/-!
# Hosts in step

A run learns nothing about its host but the answers it gets. Two hosts that answer alike and stay
related lead every run through the same states, and the relation also says what the run made of the
hosts. The hosts may word their errors differently, and it is enough that they answer alike for as
long as the first is in a fit state.
-/

namespace Mustache

set_option autoImplicit false

variable {First Second : Type} [Host First] [Host Second]

/-- Related hosts give the same answers and are related afterwards. -/
structure Host.InStep (related : First → Second → Prop) : Prop where
  partial? : ∀ (first : First) (second : Second) (name : String), related first second →
    (Host.partial? second name).1 = (Host.partial? first name).1 ∧
      related (Host.partial? first name).2 (Host.partial? second name).2
  expand : ∀ (first : First) (second : Second) (text : String) (pair : Delimiters),
    related first second →
    (Host.expand second text pair).1 = (Host.expand first text pair).1 ∧
      related (Host.expand first text pair).2 (Host.expand second text pair).2

/-- The same result, or two errors that are alike. -/
inductive EndsAlike {Reason Result : Type} (alike : Reason → Reason → Prop) :
    Except Reason Result → Except Reason Result → Prop where
  | ok (result : Result) : EndsAlike alike (.ok result) (.ok result)
  | error {reason other : Reason} (same : alike reason other) :
      EndsAlike alike (.error reason) (.error other)

/-- Stops at the same place for causes that are alike, or for the same defect. -/
inductive Stop.Alike (alike : RunCause → RunCause → Prop) : Stop → Stop → Prop where
  | error {cause other : RunCause} (location : Option Location) (same : alike cause other) :
      Alike alike (.error ⟨cause, location⟩) (.error ⟨other, location⟩)
  | fault (defect : Fault) : Alike alike (.fault defect) (.fault defect)

variable {Result Other : Type} {alike : RunCause → RunCause → Prop}
  {related : First → Second → Prop} {fits : First → Prop}

namespace EndsAlike

theorem map {Reason : Type} {alike : Reason → Reason → Prop} {first second : Except Reason Result}
    (ends : EndsAlike alike first second) (make : Result → Other) :
    EndsAlike alike (first.map make) (second.map make) := by
  cases ends with
  | ok result => exact .ok _
  | error same => exact .error same

theorem refl (same : ∀ cause, alike cause cause) (outcome : Except Stop Result) :
    EndsAlike (Stop.Alike alike) outcome outcome := by
  cases outcome with
  | ok result => exact .ok result
  | error reason =>
    cases reason with
    | error failure => exact .error (.error failure.location (same failure.cause))
    | fault defect => exact .error (.fault defect)

theorem eq {first second : Except Stop Result} (ends : EndsAlike (Stop.Alike Eq) first second) :
    second = first := by
  cases ends with
  | ok result => rfl
  | error same =>
    cases same with
    | error location causes => rw [causes]
    | fault defect => rfl

end EndsAlike

/-- Related hosts answer alike and are related afterwards, if the first is in a fit state then. A
state that is not fit stays so. -/
structure Host.Matches (alike : RunCause → RunCause → Prop) (related : First → Second → Prop)
    (fits : First → Prop) : Prop where
  refl : ∀ cause, alike cause cause
  partialBefore : ∀ (first : First) (name : String), fits (Host.partial? first name).2 → fits first
  partial? : ∀ (first : First) (second : Second) (name : String), related first second →
    fits (Host.partial? first name).2 →
    EndsAlike (Stop.Alike alike) ((Host.partial? first name).1.mapError .error)
        ((Host.partial? second name).1.mapError .error) ∧
      related (Host.partial? first name).2 (Host.partial? second name).2
  expandBefore : ∀ (first : First) (text : String) (pair : Delimiters),
    fits (Host.expand first text pair).2 → fits first
  expand : ∀ (first : First) (second : Second) (text : String) (pair : Delimiters),
    related first second → fits (Host.expand first text pair).2 →
    EndsAlike (Stop.Alike alike) ((Host.expand first text pair).1.mapError .error)
        ((Host.expand second text pair).1.mapError .error) ∧
      related (Host.expand first text pair).2 (Host.expand second text pair).2

/-- Hosts in step match in all their states. -/
theorem Host.InStep.matching (inStep : Host.InStep related) :
    Host.Matches Eq related fun _ => True where
  refl _ := rfl
  partialBefore _ _ _ := trivial
  partial? first second name alike _ := by
    obtain ⟨same, kept⟩ := inStep.partial? first second name alike
    rw [same]
    exact ⟨.refl (fun _ => rfl) _, kept⟩
  expandBefore _ _ _ _ := trivial
  expand first second text pair alike _ := by
    obtain ⟨same, kept⟩ := inStep.expand first second text pair alike
    rw [same]
    exact ⟨.refl (fun _ => rfl) _, kept⟩

def RunState.onHost (state : RunState First) (host : Second) : RunState Second :=
  ⟨state.context, state.stack, state.output, host⟩

namespace Run

/-- A relation that holds of the parts of a run holds of the run. -/
theorem Closed.run {rel : {Result : Type} → Run First Result → Run Second Result → Prop}
    (closed : Closed rel) (pops : rel Run.popValue Run.popValue) (limit remaining : Nat)
    (frame : Frame) : rel (Run.execute limit remaining frame) (Run.execute limit remaining frame) := by
  induction remaining, frame using Frame.descent with
  | step remaining frame inside deeper later =>
    rw [← @Monitor.execute_idle First _ limit remaining frame]
    apply closed.execute Monitor.idle
    · intro instruction
      rw [perform_eq_effect]
      apply closed.effect closed pops
      · intro child found
        have enters := inside child found
        rwa [← @Monitor.execute_idle First _ limit remaining (Frame.start child)] at enters
      · intro body bodyOther related
        cases remaining with
        | zero => exact closed.stop _
        | succ below =>
          apply related
          intro template
          have enters := deeper below template rfl
          rwa [← @Monitor.execute_idle First _ limit below (Frame.start template)] at enters
    · intro next same shorter
      have ahead := later next same shorter
      rwa [← @Monitor.execute_idle First _ limit remaining next] at ahead

/-- If the host is in a fit state after the first run, it was before, and on a related host the
second run ends alike, in the same state but for the host, which is related again. -/
structure Follows (alike : RunCause → RunCause → Prop) (related : First → Second → Prop)
    (fits : First → Prop) (first : Run First Result) (second : Run Second Result) : Prop where
  before : ∀ state, fits (first state).2.host → fits state.host
  same : ∀ (state : RunState First) (host : Second), related state.host host →
    fits (first state).2.host →
    ∃ outcome after, EndsAlike (Stop.Alike alike) (first state).1 outcome ∧
      related (first state).2.host after ∧
      second (state.onHost host) = (outcome, (first state).2.onHost after)

namespace Follows

variable {first : Run First Result} {second : Run Second Result}

omit [Host First] [Host Second] in
theorem bind {next : Result → Run First Other} {later : Result → Run Second Other}
    (firsts : Follows alike related fits first second)
    (nexts : ∀ result, Follows alike related fits (next result) (later result)) :
    Follows alike related fits (first >>= next) (second >>= later) := by
  constructor
  · intro state
    have before := firsts.before state
    simp only [bind_def, andThen]
    cases ran : first state with
    | mk outcome middle =>
      rw [ran] at before
      cases outcome with
      | error reason => exact before
      | ok result => exact fun fit => before ((nexts result).before middle fit)
  · intro state host matched fit
    have ahead := firsts.same state host matched
    simp only [bind_def, andThen] at fit ⊢
    cases ran : first state with
    | mk outcome middle =>
      rw [ran] at ahead fit
      cases outcome with
      | error reason =>
        obtain ⟨other, after, ends, kept, same⟩ := ahead fit
        rw [same]
        cases ends with
        | error stops => exact ⟨_, after, .error stops, kept, rfl⟩
      | ok result =>
        obtain ⟨other, after, ends, kept, same⟩ := ahead ((nexts result).before middle fit)
        rw [same]
        cases ends with
        | ok _ => exact (nexts result).same middle after kept fit

omit [Host First] [Host Second] in
theorem withFrame (frame : Value) (bodies : Follows alike related fits first second) :
    Follows alike related fits (Run.withFrame frame first) (Run.withFrame frame second) := by
  constructor
  · intro state
    exact bodies.before { state with context := state.context.push frame }
  · intro state host matched fit
    have entered := bodies.same { state with context := state.context.push frame } host matched fit
    obtain ⟨outcome, after, ends, kept, same⟩ := entered
    refine ⟨outcome, after, ends, kept, ?_⟩
    unfold Run.withFrame
    dsimp only [RunState.onHost] at same ⊢
    rw [same]

omit [Host First] [Host Second] in
theorem indented {body : Run First Unit} {other : Run Second Unit} (indentation : String)
    (bodies : Follows alike related fits body other) :
    Follows alike related fits (Run.indented indentation body)
      (Run.indented indentation other) := by
  constructor
  · intro state
    have before := bodies.before { state with output := Output.empty state.output.escaping }
    unfold Run.indented
    dsimp only
    cases ran : body { state with output := Output.empty state.output.escaping } with
    | mk outcome middle =>
      rw [ran] at before
      cases outcome <;> exact before
  · intro state host matched fit
    have entered := bodies.same { state with output := Output.empty state.output.escaping } host
      matched
    unfold Run.indented at fit ⊢
    dsimp only [RunState.onHost] at entered fit ⊢
    cases ran : body { state with output := Output.empty state.output.escaping } with
    | mk outcome middle =>
      rw [ran] at entered fit
      cases outcome with
      | error reason =>
        obtain ⟨_, after, ends, kept, same⟩ := entered fit
        rw [same]
        cases ends with
        | error stops => exact ⟨_, after, .error stops, kept, rfl⟩
      | ok result =>
        obtain ⟨_, after, ends, kept, same⟩ := entered fit
        rw [same]
        cases ends with
        | ok _ => exact ⟨_, after, .ok (), kept, rfl⟩

omit [Host First] [Host Second] in
theorem located (location : Option Location) (bodies : Follows alike related fits first second) :
    Follows alike related fits (Run.located location first) (Run.located location second) := by
  constructor
  · intro state
    rw [located_apply]
    exact bodies.before state
  · intro state host matched fit
    rw [located_apply] at fit ⊢
    rw [located_apply]
    obtain ⟨outcome, after, ends, kept, same⟩ := bodies.same state host matched fit
    rw [same]
    dsimp only at ends kept ⊢
    generalize (first state).1 = reached at ends ⊢
    cases ends with
    | ok result => exact ⟨_, after, .ok result, kept, rfl⟩
    | error stops =>
      cases stops with
      | error place causes =>
        exact ⟨_, after, .error (.error (place <|> location) causes), kept, rfl⟩
      | fault defect => exact ⟨_, after, .error (.fault defect), kept, rfl⟩

omit [Host First] [Host Second] in
/-- A run that asks nothing does the same on any host. -/
theorem silent (refl : ∀ cause, alike cause cause)
    (kept : ∀ state, (first state).2.host = state.host)
    (same : ∀ (state : RunState First) (host : Second),
      second (state.onHost host) = ((first state).1, (first state).2.onHost host)) :
    Follows alike related fits first second := by
  constructor
  · intro state fit
    rwa [kept] at fit
  · intro state host matched _
    refine ⟨(first state).1, host, .refl refl _, ?_, same state host⟩
    rwa [kept]

omit [Host First] [Host Second] in
theorem ask {question : First → Except RunError Result × First}
    {other : Second → Except RunError Result × Second}
    (before : ∀ first, fits (question first).2 → fits first)
    (answers : ∀ (first : First) (second : Second), related first second →
      fits (question first).2 →
      EndsAlike (Stop.Alike alike) ((question first).1.mapError .error)
          ((other second).1.mapError .error) ∧
        related (question first).2 (other second).2) :
    Follows alike related fits (Run.ask question) (Run.ask other) := by
  constructor
  · intro state fit
    exact before state.host fit
  · intro state host matched fit
    obtain ⟨ends, kept⟩ := answers state.host host matched fit
    exact ⟨_, _, ends, kept, rfl⟩

theorem closed (matching : Host.Matches alike related fits) :
    Closed fun {Result : Type} (first : Run First Result) second =>
      Follows alike related fits first second where
  stop _ := silent matching.refl (fun _ => rfl) fun _ _ => rfl
  done _ := silent matching.refl (fun _ => rfl) fun _ _ => rfl
  bind firsts nexts := firsts.bind nexts
  pushValue _ := silent matching.refl (fun _ => rfl) fun _ _ => rfl
  fromContext _ := silent matching.refl (fun _ => rfl) fun _ _ => rfl
  write _ := silent matching.refl (fun _ => rfl) fun _ _ => rfl
  writeEscaped _ := silent matching.refl (fun _ => rfl) fun _ _ => rfl
  withFrame frame _ _ bodies := bodies.withFrame frame
  indented indentation _ _ bodies := bodies.indented indentation
  located location _ _ bodies := bodies.located location
  partial? name := ask (matching.partialBefore · name) fun first second matched =>
    matching.partial? first second name matched
  expand text pair := ask (matching.expandBefore · text pair) fun first second matched =>
    matching.expand first second text pair matched

omit [Host First] [Host Second] in
theorem popValue (refl : ∀ cause, alike cause cause) :
    Follows alike related fits Run.popValue Run.popValue := by
  apply silent refl
  · rintro ⟨context, stack, output, host⟩
    cases stack <;> rfl
  · rintro ⟨context, stack, output, host⟩ second
    cases stack <;> rfl

theorem execute (matching : Host.Matches alike related fits) (limit remaining : Nat)
    (frame : Frame) : Follows alike related fits (Run.execute limit remaining frame)
      (Run.execute limit remaining frame) :=
  (closed matching).run (popValue matching.refl) limit remaining frame

end Follows

/-- On related hosts both runs end alike, and the hosts are related again. -/
def Agrees (related : First → Second → Prop) (first : Run First Result)
    (second : Run Second Result) : Prop :=
  ∀ (state : RunState First) (host : Second), related state.host host →
    ∃ after : Second, related (first state).2.host after ∧
      second (state.onHost host) = ((first state).1, (first state).2.onHost after)

theorem Agrees.execute (inStep : Host.InStep related) (limit remaining : Nat) (frame : Frame) :
    Agrees related (Run.execute limit remaining frame) (Run.execute limit remaining frame) := by
  intro state host matched
  have follows := Follows.execute inStep.matching limit remaining frame
  obtain ⟨outcome, after, ends, kept, same⟩ := follows.same state host matched trivial
  rw [ends.eq] at same
  exact ⟨after, kept, same⟩

end Run

namespace Machine

variable {related : First → Second → Prop}

/-- What comes of rendering on one of two related hosts, and of rendering on the other. -/
structure Finished.Agree (related : First → Second → Prop) (finished : Finished First)
    (again : Finished Second) : Prop where
  outcome : again.outcome = finished.outcome
  output : again.output = finished.output
  machine : again.machine = finished.machine
  hosts : related finished.host again.host

theorem renderInto_agrees (inStep : Host.InStep related) {first : First} {second : Second}
    (alike : related first second) (machine : Machine) (code : Code) (output : Output) :
    (machine.renderInto code first output).Agree related (machine.renderInto code second output) := by
  have entered := Run.Agrees.execute inStep machine.options.depthLimit machine.options.depthLimit
    (Frame.start code) ⟨machine.context, machine.stack, output, first⟩ second alike
  obtain ⟨after, kept, same⟩ := entered
  dsimp only [RunState.onHost] at same
  unfold renderInto
  dsimp only
  rw [same]
  exact ⟨rfl, rfl, rfl, kept⟩

/-- A render depends on the options of its machine and on the answers of its host, and on nothing
that either did before. -/
theorem render_agrees (inStep : Host.InStep related) {first : First} {second : Second}
    (alike : related first second) (ambient : Host.ambient? second = Host.ambient? first)
    (machine other : Machine) (options : other.options = machine.options) (code : Code)
    (data : Value) :
    (machine.render code data first).Agree related (other.render code data second) := by
  unfold render
  rw [ambient, options]
  exact renderInto_agrees inStep alike _ code _

variable {alike : RunCause → RunCause → Prop} {fits : First → Prop}

/-- What comes of rendering on one of two hosts, and of rendering on the other, where errors are
alike. -/
structure Finished.Follow (alike : RunCause → RunCause → Prop) (related : First → Second → Prop)
    (finished : Finished First) (again : Finished Second) : Prop where
  outcome : EndsAlike (Stop.Alike alike) finished.outcome again.outcome
  output : again.output = finished.output
  machine : again.machine = finished.machine
  hosts : related finished.host again.host

theorem renderInto_follows (matching : Host.Matches alike related fits) (machine : Machine)
    (code : Code) (first : First) (output : Output) :
    (fits (machine.renderInto code first output).host → fits first) ∧
    ∀ second : Second, related first second →
      fits (machine.renderInto code first output).host →
      (machine.renderInto code first output).Follow alike related
        (machine.renderInto code second output) := by
  have follows := Run.Follows.execute matching machine.options.depthLimit machine.options.depthLimit
    (Frame.start code)
  refine ⟨follows.before ⟨machine.context, machine.stack, output, first⟩, ?_⟩
  intro second matched fit
  have entered := follows.same ⟨machine.context, machine.stack, output, first⟩ second matched fit
  obtain ⟨outcome, after, ends, kept, same⟩ := entered
  dsimp only [RunState.onHost] at same
  unfold renderInto
  dsimp only
  rw [same]
  exact ⟨ends, rfl, rfl, kept⟩

end Machine

end Mustache
