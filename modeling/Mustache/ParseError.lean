import Mustache.Position
import Mustache.Text.Quoted

/-!
# Parse errors

What can be wrong with a template, where it is wrong, and how that is reported: the cause, the
line, its text, and a caret under the column.
-/

namespace Mustache

set_option autoImplicit false

/-- Why a template is refused. -/
inductive ParseCause where
  /-- A tag has no content, or its content starts with a character that no name has. -/
  | illegalContent
  /-- The close delimiter does not follow the content. -/
  | unclosedTag
  /-- A close tag stands where no section is open. -/
  | closingUnopened (name : String)
  /-- A section ends with the text, or a close tag with another name comes first. -/
  | unclosedSection (name : String)
  /-- A delimiter change does not have exactly two words. -/
  | malformedDelimiters (content : String)
deriving Repr, DecidableEq, Inhabited

namespace ParseCause

def message : ParseCause → String
  | illegalContent => "Illegal content in tag"
  | unclosedTag => "Unclosed tag"
  | closingUnopened name => "Closing unopened " ++ Text.quote name
  | unclosedSection name => "Unclosed section " ++ Text.quote name
  | malformedDelimiters content => "Malformed delimiter change " ++ Text.quote content

end ParseCause

/-- A cause and the place it is blamed on. -/
structure Failure where
  cause : ParseCause
  position : Position
deriving Repr, DecidableEq, Inhabited

/-- A failure together with the text of its line. -/
structure ParseError where
  cause : ParseCause
  position : Position
  context : String
deriving Repr, DecidableEq, Inhabited

/-- Reports a failure against the text it was found in. -/
def Failure.report (failure : Failure) (source : String) : ParseError :=
  ⟨failure.cause, failure.position, failure.position.lineText source⟩

namespace ParseError

/-- The line of the error, counted from one. -/
def line (error : ParseError) : Nat := error.position.lineNumber

/-- The column of the error in bytes, counted from one. -/
def column (error : ParseError) : Nat := error.position.columnNumber

/-- The full report, four lines without a final line break. -/
def message (error : ParseError) : String :=
  error.cause.message ++ "\n  Line " ++ Nat.repr error.line ++ "\n    " ++ error.context ++
    "\n    " ++ String.ofList (List.replicate (error.column - 1) ' ') ++ "^"

end ParseError

end Mustache
