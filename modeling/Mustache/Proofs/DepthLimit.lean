import Mustache.Proofs.HostAnswers
import Mustache.Proofs.HostsInStep

/-!
# Raising the depth limit

Two runs that differ only in their limits go through the same states until the lower limit cuts the
first of them off. A run is cut off where one of its instructions is, with all the levels that the
run began with, so what came before in the same block has used up none of them.
-/

namespace Mustache

set_option autoImplicit false

/-- A host together with the questions asked so far, the latest first, and whether one of them was
answered with an error. -/
structure Observed (State : Type) where
  host : State
  asked : List Question
  refused : Bool

variable {State Result Other : Type}

namespace Observed

def start (host : State) : Observed State := ⟨host, [], false⟩

def record (observed : Observed State) (question : Question)
    (answer : Except RunError Result × State) : Except RunError Result × Observed State :=
  (answer.1, ⟨answer.2, question :: observed.asked, observed.refused || !answer.1.isOk⟩)

instance [Host State] : Host (Observed State) where
  partial? observed name := observed.record (.template name) (Host.partial? observed.host name)
  expand observed text pair :=
    observed.record (.expansion text pair) (Host.expand observed.host text pair)
  ambient? observed := Host.ambient? observed.host

/-- The run ended at the limit. An error of the host is none of the limit, even if it reads alike. -/
def CutOff (limit : Nat) (host : Observed State) (outcome : Except Stop Result) : Prop :=
  host.refused = false ∧
    ∃ location, outcome = .error (.error ⟨.depthExceeded limit, location⟩)

/-- Observing a host changes none of its answers. -/
theorem inStep [Host State] :
    Host.InStep fun (host : State) (observed : Observed State) => observed.host = host where
  partial? host observed name same := by
    subst same
    exact ⟨rfl, rfl⟩
  expand host observed text pair same := by
    subst same
    exact ⟨rfl, rfl⟩

end Observed

namespace Run

/-- The second run does what the first does, unless the limit cuts the first off. -/
structure Raises (limit : Nat) (lower upper : Run (Observed State) Result) : Prop where
  same : ∀ state, state.host.refused = false →
    (lower state).2.host.CutOff limit (lower state).1 ∨ upper state = lower state
  answered : ∀ state result, (lower state).1 = .ok result →
    (lower state).2.host.refused = state.host.refused

namespace Raises

variable {limit : Nat}

theorem silent (run : Run (Observed State) Result)
    (kept : ∀ state, (run state).2.host = state.host) : Raises limit run run where
  same _ _ := .inr rfl
  answered state _ _ := by rw [kept]

theorem bind {lower upper : Run (Observed State) Result}
    {next later : Result → Run (Observed State) Other} (firsts : Raises limit lower upper)
    (nexts : ∀ result, Raises limit (next result) (later result)) :
    Raises limit (lower >>= next) (upper >>= later) := by
  constructor
  · intro state unrefused
    have first := firsts.same state unrefused
    have answered := firsts.answered state
    simp only [bind_def, andThen]
    cases ran : lower state with
    | mk outcome after =>
      rw [ran] at first answered
      cases outcome with
      | error reason =>
        rcases first with ⟨candid, location, same⟩ | same
        · cases same
          exact .inl ⟨candid, location, rfl⟩
        · rw [same]
          exact .inr rfl
      | ok result =>
        rcases first with ⟨-, location, impossible⟩ | same
        · cases impossible
        · rw [same]
          exact (nexts result).same after ((answered result rfl).trans unrefused)
  · intro state result done
    have answered := firsts.answered state
    simp only [bind_def, andThen] at done ⊢
    cases ran : lower state with
    | mk outcome after =>
      rw [ran] at answered done
      cases outcome with
      | error reason => cases done
      | ok middle => exact ((nexts middle).answered after result done).trans (answered middle rfl)

theorem withFrame (frame : Value) {lower upper : Run (Observed State) Unit}
    (bodies : Raises limit lower upper) :
    Raises limit (Run.withFrame frame lower) (Run.withFrame frame upper) := by
  constructor
  · intro state unrefused
    rcases bodies.same { state with context := state.context.push frame } unrefused with
      cut | same
    · exact .inl cut
    · unfold Run.withFrame
      rw [same]
      exact .inr rfl
  · intro state result done
    exact bodies.answered { state with context := state.context.push frame } result done

theorem indented (indentation : String) {lower upper : Run (Observed State) Unit}
    (bodies : Raises limit lower upper) :
    Raises limit (Run.indented indentation lower) (Run.indented indentation upper) := by
  constructor
  · intro state unrefused
    have entered := bodies.same { state with output := Output.empty state.output.escaping } unrefused
    unfold Run.indented
    dsimp only
    rcases entered with ⟨candid, location, same⟩ | same
    · cases ran : lower { state with output := Output.empty state.output.escaping } with
      | mk outcome after =>
        rw [ran] at candid same
        cases same
        exact .inl ⟨candid, location, rfl⟩
    · rw [same]
      exact .inr rfl
  · intro state result done
    have answered := bodies.answered { state with output := Output.empty state.output.escaping }
    unfold Run.indented at done ⊢
    dsimp only at done ⊢
    cases ran : lower { state with output := Output.empty state.output.escaping } with
    | mk outcome after =>
      rw [ran] at answered done
      cases outcome with
      | error reason => cases done
      | ok middle => exact answered middle rfl

theorem located (location : Option Location) {lower upper : Run (Observed State) Result}
    (bodies : Raises limit lower upper) :
    Raises limit (Run.located location lower) (Run.located location upper) := by
  constructor
  · intro state unrefused
    rw [located_apply, located_apply]
    rcases bodies.same state unrefused with ⟨candid, place, same⟩ | same
    · refine .inl ⟨candid, place <|> location, ?_⟩
      dsimp only
      rw [same]
      rfl
    · rw [same]
      exact .inr rfl
  · intro state result done
    rw [located_apply] at done ⊢
    apply bodies.answered state result
    dsimp only at done
    split at done
    · cases done
    · exact done

theorem ask (question : Question) (answer : State → Except RunError Result × State) :
    Raises limit
      (Run.ask fun observed : Observed State => observed.record question (answer observed.host))
      (Run.ask fun observed => observed.record question (answer observed.host)) := by
  constructor
  · intro state _
    exact .inr rfl
  · intro state result done
    unfold Run.ask Observed.record at done ⊢
    dsimp only at done ⊢
    cases known : (answer state.host.host).1 with
    | error reason =>
      rw [known] at done
      cases done
    | ok other => simp [Except.isOk, Except.toBool]

theorem closed [Host State] (limit : Nat) :
    Closed fun {Result : Type} (lower : Run (Observed State) Result) upper =>
      Raises limit lower upper where
  stop reason := silent (Run.stop reason) fun _ => rfl
  done result := silent (Run.done result) fun _ => rfl
  bind firsts nexts := firsts.bind nexts
  pushValue value := silent (Run.pushValue value) fun _ => rfl
  fromContext read := silent (Run.fromContext read) fun _ => rfl
  write text := silent (Run.write text) fun _ => rfl
  writeEscaped text := silent (Run.writeEscaped text) fun _ => rfl
  withFrame frame _ _ bodies := bodies.withFrame frame
  indented indentation _ _ bodies := bodies.indented indentation
  located location _ _ bodies := bodies.located location
  partial? name := ask (.template name) fun host => Host.partial? host name
  expand text pair := ask (.expansion text pair) fun host => Host.expand host text pair

theorem popValue : Raises limit (Run.popValue : Run (Observed State) Value) Run.popValue := by
  apply silent
  intro state
  obtain ⟨context, stack, output, host⟩ := state
  cases stack <;> rfl

/-- Nothing is left to the lower run at its limit. -/
theorem fail (upper : Run (Observed State) Result) :
    Raises limit (Run.fail (.depthExceeded limit)) upper where
  same _ unrefused := .inl ⟨unrefused, none, rfl⟩
  answered _ _ done := nomatch done

/-- With at least as many levels left, and whatever limit its errors name, a run does the same
unless it is cut off. -/
theorem execute [Host State] (limit higher remaining : Nat) (frame : Frame) :
    ∀ more, remaining ≤ more → Raises limit
      (Run.execute limit remaining frame : Run (Observed State) Unit)
      (Run.execute higher more frame) := by
  induction remaining, frame using Frame.descent with
  | step remaining frame inside deeper later =>
    intro more enough
    rw [← Monitor.execute_idle]
    apply (closed limit).execute Monitor.idle
    · intro instruction
      rw [perform_eq_effect]
      apply (closed limit).effect (closed limit) popValue
      · intro child found
        have enters := inside child found more enough
        rwa [← Monitor.execute_idle] at enters
      · intro body bodyOther related
        cases remaining with
        | zero => exact fail _
        | succ below =>
          cases more with
          | zero => omega
          | succ more =>
            apply related
            intro template
            have enters := deeper below template rfl more (by omega)
            rwa [← Monitor.execute_idle] at enters
    · intro next same shorter
      have ahead := later next same shorter more enough
      rwa [← Monitor.execute_idle] at ahead

end Raises

/-- The run of the words ahead of a frame comes to another frame, in another state. -/
inductive Arrives [Host State] (limit remaining : Nat) :
    Frame → RunState State → Frame → RunState State → Prop where
  | here (frame : Frame) (state : RunState State) : Arrives limit remaining frame state frame state
  | behind {frame next last : Frame} {state after final : RunState State}
      {instruction : Instruction} (goes : instruction ≠ .halt)
      (decoded : frame.decode? = some (.ok (instruction, next)))
      (performed : perform limit remaining frame.code instruction state = (.ok (), after))
      (later : Arrives limit remaining next after last final) :
      Arrives limit remaining frame state last final

/-- A run is cut off where an instruction is, with as many levels left as the run began with. -/
theorem exists_cutOff [Host State] {limit remaining : Nat} {frame : Frame}
    {state : RunState (Observed State)}
    (cut : (execute limit remaining frame state).2.host.CutOff limit
      (execute limit remaining frame state).1) :
    ∃ place before instruction next, Arrives limit remaining frame state place before ∧
      place.decode? = some (.ok (instruction, next)) ∧
      (perform limit remaining place.code instruction before).2.host.CutOff limit
        (perform limit remaining place.code instruction before).1 := by
  induction ahead : frame.ahead.length using Nat.strongRecOn generalizing frame state with
  | ind count ih =>
    rcases frame.decode?_cases with none | ⟨defect, broken⟩ | ⟨next, halts⟩ |
        ⟨instruction, next, goes, decoded⟩
    · rw [execute_eq, none] at cut
      obtain ⟨-, location, impossible⟩ := cut
      cases impossible
    · rw [execute_eq, broken] at cut
      obtain ⟨-, location, impossible⟩ := cut
      cases impossible
    · rw [execute_eq, halts] at cut
      obtain ⟨-, location, impossible⟩ := cut
      cases impossible
    · have shorter := frame.decode?_shorter next instruction decoded
      rw [execute_of_step goes decoded] at cut
      simp only [bind_def, andThen, located_apply] at cut
      cases performed : perform limit remaining frame.code instruction state with
      | mk outcome after =>
        rw [performed] at cut
        cases outcome with
        | error reason =>
          refine ⟨frame, state, instruction, next, .here frame state, decoded, ?_⟩
          rw [performed]
          obtain ⟨candid, location, same⟩ := cut
          cases reason with
          | fault defect => cases same
          | error error =>
            obtain ⟨cause, place⟩ := error
            cases same
            exact ⟨candid, place, rfl⟩
        | ok result =>
          obtain ⟨place, before, found, following, arrives, rest⟩ :=
            ih next.ahead.length (by omega) cut rfl
          exact ⟨place, before, found, following, .behind goes decoded performed arrives, rest⟩

end Run

namespace Machine

/-- The machine with another depth limit. -/
def raised (machine : Machine) (higher : Nat) : Machine :=
  { machine with options := { machine.options with depthLimit := higher } }

namespace Finished

/-- What a machine with another depth limit leaves behind, if it ends alike. -/
def raised (finished : Finished State) (higher : Nat) : Finished State :=
  { finished with machine := finished.machine.raised higher }

def CutOff (limit : Nat) (finished : Finished (Observed State)) : Prop :=
  finished.host.CutOff limit finished.outcome

end Finished

variable [Host State]

theorem renderInto_raised (machine : Machine) {higher : Nat}
    (above : machine.options.depthLimit ≤ higher) (code : Code) {host : Observed State}
    (unrefused : host.refused = false) (output : Output) :
    (machine.renderInto code host output).CutOff machine.options.depthLimit ∨
      (machine.raised higher).renderInto code host output =
        (machine.renderInto code host output).raised higher := by
  have raises : Run.Raises machine.options.depthLimit
      (Run.execute machine.options.depthLimit machine.options.depthLimit (Frame.start code) :
        Run (Observed State) Unit)
      (Run.execute higher higher (Frame.start code)) :=
    Run.Raises.execute _ _ _ _ _ above
  rcases raises.same ⟨machine.context, machine.stack, output, host⟩ unrefused with cut | same
  · exact .inl cut
  · right
    unfold renderInto
    dsimp only [raised]
    rw [same]
    rfl

/-- What comes of a render is the same whether the host is observed or not. -/
theorem render_observed (machine : Machine) (code : Code) (data : Value) (host : State) :
    (machine.render code data host).Agree (fun host observed => observed.host = host)
      (machine.render code data (Observed.start host)) := by
  have related : (Observed.start host).host = host := rfl
  exact render_agrees Observed.inStep related rfl machine machine rfl code data

end Machine

/-- A depth limit only cuts off. Where it does not, a render under any higher limit ends alike: the
same outcome and output, the same questions to the host in the same order, the same host and the
same machine afterwards, but for its limit. And a run is cut off only at an instruction that needs
more than all the levels that the run began with, so the partials and expansions before it have used
up none. -/
theorem render_of_higher_limit [Host State] (machine : Machine) (higher : Nat)
    (above : machine.options.depthLimit ≤ higher) (code : Code) (data : Value) (host : State)
    (uncut : ¬ (machine.render code data (Observed.start host)).CutOff
      machine.options.depthLimit) :
    (machine.raised higher).render code data (Observed.start host) =
        (machine.render code data (Observed.start host)).raised higher ∧
      (machine.raised higher).render code data host =
        (machine.render code data host).raised higher ∧
      ∀ (limit remaining : Nat) (frame : Frame) (state : RunState (Observed State)),
        (Run.execute limit remaining frame state).2.host.CutOff limit
          (Run.execute limit remaining frame state).1 →
        ∃ place before instruction next, Run.Arrives limit remaining frame state place before ∧
          place.decode? = some (.ok (instruction, next)) ∧
          (Run.perform limit remaining place.code instruction before).2.host.CutOff limit
            (Run.perform limit remaining place.code instruction before).1 := by
  have observed : (machine.raised higher).render code data (Observed.start host) =
      (machine.render code data (Observed.start host)).raised higher :=
    (Machine.renderInto_raised ⟨machine.options, _, []⟩ above code rfl _).resolve_left uncut
  refine ⟨observed, ?_, fun _ _ _ _ cut => Run.exists_cutOff cut⟩
  have plain := machine.render_observed code data host
  have plainRaised := (machine.raised higher).render_observed code data host
  rw [observed] at plainRaised
  cases known : (machine.raised higher).render code data host with
  | mk outcome after later output =>
    rw [known] at plainRaised
    have sameOutcome : outcome = (machine.render code data host).outcome :=
      plainRaised.outcome.symm.trans plain.outcome
    have sameMachine : after = (machine.render code data host).machine.raised higher :=
      plainRaised.machine.symm.trans (congrArg (Machine.raised · higher) plain.machine)
    have sameHost : later = (machine.render code data host).host :=
      plainRaised.hosts.symm.trans plain.hosts
    have sameOutput : output = (machine.render code data host).output :=
      plainRaised.output.symm.trans plain.output
    rw [sameOutcome, sameMachine, sameHost, sameOutput]
    rfl

/-- One level is enough for the text of a callable, so four are. -/
theorem render_of_higher_limit_expansion :
    let body : Code := ⟨"", #[1], #[], #[], #[], #[], #[⟨0, 0⟩]⟩
    let code : Code := ⟨"", #[21, 30, 0, 1], #[], #[], #[⟨0, "\x7b\x7b.\x7d\x7d", Delimiters.standard⟩],
      #[body], #[⟨1, 1⟩, ⟨1, 1⟩, ⟨1, 1⟩, ⟨1, 1⟩]⟩
    let callable := Value.lambda (.expander fun raw => .string (raw ++ "&"))
    let machine := Machine.new ⟨.none, 1⟩
    machine.options.depthLimit ≤ 4 ∧
      (machine.render code callable (Observed.start (⟨⟩ : DotHost))).outcome = .ok () ∧
      (machine.raised 4).render code callable (Observed.start (⟨⟩ : DotHost)) =
        (machine.render code callable (Observed.start (⟨⟩ : DotHost))).raised 4 := by
  intro body code callable machine
  have done : (machine.render code callable (Observed.start (⟨⟩ : DotHost))).outcome = .ok () := by
    cbv
  refine ⟨by decide, done, ?_⟩
  apply (render_of_higher_limit machine 4 (by decide) code callable (⟨⟩ : DotHost) ?_).1
  rintro ⟨-, location, exceeded⟩
  rw [done] at exceeded
  cases exceeded

end Mustache
