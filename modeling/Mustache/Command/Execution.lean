import Mustache.Command.Session

/-!
# Executing a request

A request first prints one template, if it names any, and then starts a session if it asks for one
or names no template.
-/

namespace Mustache.Command

set_option autoImplicit false

/-- What was printed first, and the session that follows, if any. -/
structure Opening where
  out : String
  session? : Option Session

/-- The whole of what a command printed, and its exit code. -/
structure Outcome where
  printed : Printed
  code : Nat
deriving Repr, DecidableEq, Inhabited

/-- The opening of a session on a job, after `out`. -/
def beginSession (out : String) (job : Job) : Opening := ⟨out ++ banner, some (Session.start job)⟩

/-- Prints a template, and starts a session if the settings ask for one. `blame` turns an error into
that of the command. -/
def printFirst (job : Job) (name source : String) (blame : PrintError → CommandError) :
    Except Interruption Opening :=
  match job.attempt name source with
  | .error paths => .error (.unread paths)
  | .ok (.error error, _) => .error (.failed (blame error))
  | .ok (.ok output, next) =>
    if next.settings.interactive then .ok (beginSession output next) else .ok ⟨output, none⟩

/-- Executes settings up to the session. A template given as an argument goes before a file. -/
def executeSettings (disk : Disk) (settings : Settings) : Except Interruption Opening := do
  let job ← Job.load disk settings
  match settings.template, settings.file with
  | some source, _ => printFirst job "<eval>" source .inTemplate
  | none, some path =>
    let source ← readFile disk path
    printFirst job path source (.inFile path)
  | none, none => .ok (beginSession "" job)

def execute (disk : Disk) (arguments : List String) : Except Interruption Opening :=
  match Request.ofArguments arguments with
  | .error error => .error (.failed (.usage error))
  | .ok .help => .ok ⟨helpText, none⟩
  | .ok .version => .ok ⟨versionText, none⟩
  | .ok (.run settings) => executeSettings disk settings

/-- Runs the command on an input. The paths that are missing for it are returned instead, if there
are any; there are none on a disk that knows every path. -/
def run (disk : Disk) (arguments : List String) (input : String) :
    Except (List String) Outcome :=
  match execute disk arguments with
  | .error (.unread paths) => .error paths
  | .error (.failed error) => .ok ⟨⟨"", errorLine error.message⟩, 1⟩
  | .ok opening =>
    match opening.session? with
    | none => .ok ⟨⟨opening.out, ""⟩, 0⟩
    | some session =>
      match session.feedAll (Session.linesOf input) with
      | .error paths => .error paths
      | .ok printed => .ok ⟨(Printed.mk opening.out "").append printed, 0⟩

end Mustache.Command
