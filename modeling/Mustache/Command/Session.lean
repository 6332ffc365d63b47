import Mustache.Command.Job
import Mustache.Command.Usage
import Mustache.Text.Backspace
import Mustache.Text.Blank
import Mustache.Text.Lowercase

/-!
# Sessions

A session takes lines. The lines of an entry are gathered until no section is left open, then the
entry is printed or rendered. In front of an entry, a line may also be a word that ends the session
or a call, which begins with a slash.
-/

namespace Mustache.Command

set_option autoImplicit false

/-- What was printed, to each of the two streams. -/
structure Printed where
  out : String
  err : String
deriving Repr, DecidableEq, Inhabited

def Printed.append (first next : Printed) : Printed :=
  ⟨first.out ++ next.out, first.err ++ next.err⟩

/-- A session: the job, and the lines of the entry so far. -/
structure Session where
  job : Job
  entry : String

/-- The answer to a line, and the session afterwards unless it has ended. -/
structure Reply where
  printed : Printed
  session? : Option Session

/-- What a call asks for. -/
inductive Call where
  | help
  | clear
  | exit
  | unknown (name : String)
deriving Repr, DecidableEq, Inhabited

/-- The call in a line after its slash: the first word, in lower case. -/
def Call.ofLine (line : List Char) : Call :=
  match Text.lower (String.ofList ((Text.words line).head?.getD [])) with
  | "help" => help
  | "clear" => clear
  | "exit" => exit
  | "quit" => exit
  | name => unknown name

namespace Session

/-- A session that has taken no line. -/
def start (job : Job) : Session := ⟨job, ""⟩

/-- Whether an entry needs no further line: anything but an open section is for the reader of the
entry to report. -/
def isComplete (entry : String) : Bool :=
  match parse Delimiters.standard entry with
  | .error error =>
    match error.cause with
    | .unclosedSection _ => false
    | _ => true
  | .ok _ => true

def extend (entry line : String) : String :=
  if entry.isEmpty then line else entry ++ "\n" ++ line

/-- Goes on without a change of the entry. -/
def say (session : Session) (out : String) : Reply := ⟨⟨out, ""⟩, some session⟩

def answer (session : Session) : Call → Reply
  | .help => session.say sessionHelpText
  | .clear => session.say clearScreen
  | .exit => ⟨⟨"", ""⟩, none⟩
  | .unknown name => session.say (unknownCall name)

/-- Prints or renders a complete entry; an entry of nothing but white space is dropped. -/
def complete (session : Session) (entry : String) : Except (List String) Reply :=
  if (Text.trim entry.toList).isEmpty then .ok ⟨⟨"", ""⟩, some ⟨session.job, ""⟩⟩
  else
    match session.job.attempt "<repl>" entry with
    | .error paths => .error paths
    | .ok (.ok output, job) => .ok ⟨⟨output ++ "\n", ""⟩, some ⟨job, ""⟩⟩
    | .ok (.error error, job) => .ok ⟨⟨"", errorLine error.message⟩, some ⟨job, ""⟩⟩

def gather (session : Session) (line : String) : Except (List String) Reply :=
  let entry := extend session.entry line
  if isComplete entry then session.complete entry
  else .ok ⟨⟨"", ""⟩, some { session with entry := entry }⟩

/-- Takes a line. The paths that are missing for the answer are returned instead, if there are
any. -/
def feed (session : Session) (line : String) : Except (List String) Reply :=
  if session.entry.isEmpty then
    match Text.trim line.toList with
    | ['e', 'x', 'i', 't'] => .ok ⟨⟨farewell, ""⟩, none⟩
    | ['q', 'u', 'i', 't'] => .ok ⟨⟨farewell, ""⟩, none⟩
    | '/' :: call => .ok (session.answer (Call.ofLine call))
    | _ => session.gather line
  else session.gather line

/-- The session with a disk that knows more paths. -/
def withDisk (session : Session) (disk : Disk) : Session :=
  { session with job := session.job.withDisk disk }

/-- What is printed when the input ends, even in the middle of an entry. -/
def endOfInput : String := "\n" ++ farewell

def feedAll (session : Session) : List String → Except (List String) Printed
  | [] => .ok ⟨endOfInput, ""⟩
  | line :: rest =>
    match session.feed line with
    | .error paths => .error paths
    | .ok reply =>
      match reply.session? with
      | none => .ok reply.printed
      | some next => (next.feedAll rest).map reply.printed.append

/-- A line without its line end, which may have a carriage return; a last line without a line end
keeps all its characters. -/
def withoutLineEnd (line : List Char) : List Char :=
  match line.reverse with
  | '\n' :: '\r' :: rest => rest.reverse
  | '\n' :: rest => rest.reverse
  | _ => line

/-- The lines of an input, each with its line end. -/
def splitLines : List Char → List (List Char)
  | [] => []
  | character :: rest =>
    if character = '\n' then ['\n'] :: splitLines rest
    else
      match splitLines rest with
      | [] => [[character]]
      | first :: others => (character :: first) :: others

/-- A line as a session takes it: without its line end, and with its backspaces applied. -/
def lineOf (line : List Char) : String :=
  String.ofList (Text.applyBackspaces (withoutLineEnd line))

def linesOf (input : String) : List String := (splitLines input.toList).map lineOf

end Session

end Mustache.Command
