import Mustache.Context
import Mustache.Host
import Mustache.Output
import Mustache.Text.Indent
import Mustache.Value.Text

/-!
# Runs

A run changes the context, the value stack, the output and the state of the host, and may stop
early. What was changed before a stop stays changed, so a run returns its state also when it
stops.
-/

namespace Mustache

set_option autoImplicit false

/-- What a run works on. -/
structure RunState (State : Type) where
  context : Context
  /-- Values that wait to be used, the latest first. -/
  stack : List Value
  output : Output
  host : State

/-- A computation on the state of a run. -/
def Run (State Result : Type) : Type :=
  RunState State → Except Stop Result × RunState State

namespace Run

variable {State Result Other : Type}

def done (result : Result) : Run State Result := fun state => (.ok result, state)

/-- Runs one computation after another, unless the first stops. -/
def andThen (first : Run State Result) (next : Result → Run State Other) : Run State Other :=
  fun state =>
    match first state with
    | (.ok result, after) => next result after
    | (.error stop, after) => (.error stop, after)

instance : Monad (Run State) where
  pure := done
  bind := andThen

def stop (reason : Stop) : Run State Result := fun state => (.error reason, state)

/-- Stops because of a cause that no place is known for. -/
def fail (cause : RunCause) : Run State Result := stop (.error (RunError.ofCause cause))

def fault (defect : Fault) : Run State Result := stop (.fault defect)

/-- The value that an index of a pool stands for. -/
def fromPool (pool : PoolKind) (index : Nat) (value : Option Result) : Run State Result :=
  match value with
  | some result => done result
  | none => fault (.outOfRange pool index)

def pushValue (value : Value) : Run State Unit := fun state =>
  (.ok (), { state with stack := value :: state.stack })

/-- Takes the latest value off the stack; null if there is none. -/
def popValue : Run State Value := fun state =>
  match state.stack with
  | [] => (.ok .null, state)
  | value :: rest => (.ok value, { state with stack := rest })

def fromContext (read : Context → Result) : Run State Result := fun state =>
  (.ok (read state.context), state)

/-- Appends text to the output as it is. -/
def write (text : String) : Run State Unit := fun state =>
  (.ok (), { state with output := state.output.pushTrusted text })

def writeEscaped (text : String) : Run State Unit := fun state =>
  (.ok (), { state with output := state.output.pushEscaped text })

/-- Runs with one more frame on the context, which is removed however the run ends. -/
def withFrame (frame : Value) (body : Run State Result) : Run State Result := fun state =>
  let result := body { state with context := state.context.push frame }
  (result.1, { result.2 with context := result.2.context.pop.2 })

/-- Runs into an output of its own, whose lines are indented and appended; if the run stops, what
it wrote is dropped. -/
def indented (indentation : String) (body : Run State Unit) : Run State Unit := fun state =>
  let outer := state.output
  match body { state with output := Output.empty outer.escaping } with
  | (.ok _, after) =>
    (.ok (), { after with output := outer.pushTrusted (Text.indent after.output.text indentation) })
  | (.error reason, after) => (.error reason, { after with output := outer })

/-- Blames errors without a place on a location. -/
def located (location : Option Location) (body : Run State Result) : Run State Result :=
  fun state =>
    match body state with
    | (.error (.error error), after) => (.error (.error (error.orLocation location)), after)
    | result => result

/-- Asks the host, whose errors stop the run. -/
def ask (question : State → Except RunError Result × State) : Run State Result := fun state =>
  let answer := question state.host
  (answer.1.mapError .error, { state with host := answer.2 })

def forEach (body : Value → Run State Unit) : List Value → Run State Unit
  | [] => done ()
  | value :: rest => andThen (body value) fun _ => forEach body rest

end Run

end Mustache
