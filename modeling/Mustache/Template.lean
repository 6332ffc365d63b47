import Mustache.Machine
import Mustache.Partials

/-!
# Templates

The short way from a source text and data to output.
-/

namespace Mustache

set_option autoImplicit false

/-- A compiled template, which can be rendered any number of times. -/
structure Template where
  code : Code
deriving Inhabited

namespace Template

/-- Compiles a template that starts under the standard delimiters. -/
def ofSource (name source : String) : Except CompileError Template :=
  (compile name Delimiters.standard source).map Template.mk

/-- Renders with a host; the result holds the output and the host afterwards. -/
def renderWith {State : Type} [Host State] (template : Template) (options : Options) (data : Value)
    (host : State) : Except Stop String × State :=
  let finished := (Machine.new options).render template.code data host
  (finished.outcome.map fun _ => finished.output.text, finished.host)

/-- Renders without partials under the standard options. -/
def render (template : Template) (data : Value) : Except Stop String :=
  (template.renderWith Options.standard data Partials.empty).1

end Template

/-- Why a source text cannot be rendered. -/
inductive RenderError where
  | compile (error : CompileError)
  | runtime (stop : Stop)
deriving Repr, Inhabited

def Fault.message : Fault → String
  | unknownOpcode word offset =>
    "unknown opcode " ++ Nat.repr word.toNat ++ " at " ++ Nat.repr offset
  | missingOperand offset => "missing operand at " ++ Nat.repr offset
  | outOfRange pool index => "no entry " ++ Nat.repr index ++ " among the " ++ pool.label

/-- The report of what ended a run. -/
def Stop.message : Stop → String
  | .error failure => failure.message
  | .fault defect => defect.message

def RenderError.message : RenderError → String
  | compile error => "compile error: " ++ error.message
  | runtime stop => "render error: " ++ stop.message

/-- Compiles and renders a template in one go. -/
def render (source : String) (data : Value) (partials : Partials) :
    Except RenderError String × Partials :=
  match Template.ofSource "" source with
  | .error error => (.error (.compile error), partials)
  | .ok template =>
    let result := template.renderWith Options.standard data partials
    (result.1.mapError .runtime, result.2)

end Mustache
