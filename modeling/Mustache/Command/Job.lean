import Mustache.Command.Request
import Mustache.Code.Listing
import Mustache.DirectoryPartials
import Mustache.Json
import Mustache.Node.Printer
import Mustache.Template

/-!
# Jobs

The work behind a request: load data, then print or render one template, with the partials of a
directory. A path that the disk was not asked for before suspends the work; it can be taken up again
from the same state once the disk knows the path.
-/

namespace Mustache.Command

set_option autoImplicit false

/-- Why a template cannot be printed or rendered. -/
inductive PrintError where
  | parse (error : ParseError)
  | compile (error : CompileError)
  | run (stop : Stop)
deriving Repr, Inhabited

/-- The report of an error; the place of an error of a run stands behind it. -/
def PrintError.message : PrintError → String
  | parse error => error.message
  | compile error => error.message
  | run stop =>
    match stop with
    | .error ⟨cause, some location⟩ =>
      cause.message ++ " (line " ++ Nat.repr location.line ++ ", column " ++
        Nat.repr location.column ++ ")"
    | _ => stop.message

/-- Why a command fails. -/
inductive CommandError where
  | usage (error : UsageError)
  | fileNotFound (path : String)
  | fileUnreadable (failure : ReadFailure)
  | invalidJson (path : String) (error : Json.JsonError)
  | inTemplate (error : PrintError)
  | inFile (path : String) (error : PrintError)
deriving Repr, Inhabited

def CommandError.message : CommandError → String
  | usage error => error.message
  | fileNotFound path => "File not found: " ++ path
  | fileUnreadable failure => "Failed to read file: " ++ failure.message
  | invalidJson path error => "Invalid JSON in " ++ path ++ ": " ++ error.message
  | inTemplate error => error.message
  | inFile path error => "Error in " ++ path ++ ": " ++ error.message

/-- What keeps work from its end. -/
inductive Interruption where
  /-- The disk has to look at these paths first. -/
  | unread (paths : List String)
  | failed (error : CommandError)
deriving Repr, Inhabited

/-- Reads a file that a request names. -/
def readFile (disk : Disk) (path : String) : Except Interruption String :=
  match disk.read? path with
  | none => .error (.unread [path])
  | some (.ok content) => .ok content
  | some (.error failure) =>
    if failure.somethingThere then .error (.failed (.fileUnreadable failure))
    else .error (.failed (.fileNotFound path))

def readData (disk : Disk) (path : String) : Except Interruption Value :=
  match readFile disk path with
  | .error reason => .error reason
  | .ok content =>
    match Json.parse content with
    | .error error => .error (.failed (.invalidJson path error))
    | .ok value => .ok value

/-- What to render with. -/
structure Job where
  settings : Settings
  data : Value
  partials : DirectoryPartials

namespace Job

/-- The directory of the partials: the one asked for, else that of the template file, else the
working directory. -/
def partialsRoot (settings : Settings) : String :=
  ((settings.partials).orElse fun _ => settings.file.bind FilePath.parent?).getD "."

/-- Loads what settings name; without a data file the data is an empty map. -/
def load (disk : Disk) (settings : Settings) : Except Interruption Job := do
  let data ←
    match settings.data with
    | none => .ok (Value.ofPairs [])
    | some path => readData disk path
  let partials := DirectoryPartials.ofRoot disk (partialsRoot settings) settings.extension
  match settings.globals with
  | none => .ok ⟨settings, data, partials⟩
  | some path =>
    let globals ← readData disk path
    .ok ⟨settings, data, partials.setAmbient globals⟩

/-- The same job with a disk that knows more paths. -/
def withDisk (job : Job) (disk : Disk) : Job :=
  { job with partials := { job.partials with disk := disk, unread := [] } }

/-- Prints or renders a template as the settings say. The partials remember what they compiled, also
if the render fails. -/
def print (job : Job) (name source : String) : Except PrintError String × Job :=
  if job.settings.tokens then
    match parse Delimiters.standard source with
    | .error error => (.error (.parse error), job)
    | .ok node => (.ok (node.toText ++ "\n"), job)
  else
    match Template.ofSource name source with
    | .error error => (.error (.compile error), job)
    | .ok template =>
      if job.settings.listing then (.ok template.code.listing, job)
      else
        let result := template.renderWith job.settings.render job.data job.partials
        (result.1.mapError .run, { job with partials := result.2 })

/-- Prints or renders a template, unless a path is missing on the way. -/
def attempt (job : Job) (name source : String) :
    Except (List String) (Except PrintError String × Job) :=
  let result := job.print name source
  if result.2.partials.unread.isEmpty then .ok result else .error result.2.partials.unread

end Job

end Mustache.Command
