import Mustache.Compile

/-!
# Errors of a run

What stops a render. Errors are reported to the caller with the place of the tag that failed.
Faults are defects of the code itself, which no compiled template has.
-/

namespace Mustache

set_option autoImplicit false

/-- What a partial is called in a report. -/
inductive PartialOrigin where
  | named (name : String)
  | file (path : String)
deriving Repr, DecidableEq, Inhabited

/-- The origin as it stands in messages. -/
def PartialOrigin.label : PartialOrigin → String
  | named name => Text.quote name
  | file path => path

/-- Why a render fails. The causes of the hosts at hand are all listed. A run never looks into a
cause, it only hands it on and adds a place to it, so a host with a message of its own leads a run
as it would with any of these. -/
inductive RunCause where
  /-- More partials and callables inside one another than allowed. -/
  | depthExceeded (limit : Nat)
  /-- A partial does not compile. -/
  | inPartial (origin : PartialOrigin) (error : CompileError)
  /-- The output of a callable does not compile. -/
  | inExpansion (error : CompileError)
  /-- A name that cannot name a file below the directory of partials. -/
  | invalidName (name : String)
  /-- A file that is there and cannot be read. -/
  | unreadable (path : String) (reason : String)
deriving Repr, DecidableEq, Inhabited

def RunCause.message : RunCause → String
  | depthExceeded limit => "render depth exceeded (max " ++ Nat.repr limit ++ ")"
  | inPartial origin error => "in partial " ++ origin.label ++ ": " ++ error.message
  | inExpansion error => "in lambda output: " ++ error.message
  | invalidName name => "invalid partial name " ++ Text.quote name
  | unreadable path reason => "failed to read partial " ++ path ++ ": " ++ reason

/-- A cause, and where in the innermost template it arose. A place has a line and a column, or it is
absent as a whole; that is all a run asks of it. -/
structure RunError where
  cause : RunCause
  location : Option Location
deriving Repr, DecidableEq, Inhabited

namespace RunError

/-- An error that no tag has been blamed for. -/
def ofCause (cause : RunCause) : RunError := ⟨cause, none⟩

/-- The report of an error, without its place. -/
def message (error : RunError) : String := error.cause.message

/-- Blames the error on a place unless it has one, which is more precise. -/
def orLocation (error : RunError) (location : Option Location) : RunError :=
  { error with location := error.location <|> location }

end RunError

/-- A defect of code that is not the code of a template. -/
inductive Fault where
  /-- A word that is no opcode. -/
  | unknownOpcode (word : UInt16) (offset : Nat)
  /-- The words end inside an instruction. -/
  | missingOperand (offset : Nat)
  /-- No text constant, name, section entry or child has this index. -/
  | outOfRange (pool : PoolKind) (index : Nat)
deriving Repr, DecidableEq, Inhabited

/-- What ends a run before the end of its code. -/
inductive Stop where
  | error (error : RunError)
  | fault (fault : Fault)
deriving Repr, DecidableEq, Inhabited

end Mustache
