import Mustache.RunError
import Mustache.Value

/-!
# Hosts

A host supplies what a template cannot hold itself: partials, the compiler for the output of
callables, and a frame below all data. Answering may change the state of the host, for instance by
keeping compiled code.
-/

namespace Mustache

set_option autoImplicit false

/-- The services of a host with states of type `State`. -/
class Host (State : Type) where
  /-- The code of a partial; a partial that does not exist writes nothing. -/
  partial? : State → String → Except RunError (Option Code) × State
  /-- Compiles the output of a callable under the delimiters of its section. -/
  expand : State → String → Delimiters → Except RunError Code × State
  /-- The frame below the data of every render. -/
  ambient? : State → Option Value

end Mustache
