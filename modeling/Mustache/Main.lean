import Mustache.Command.Execution

/-!
# The command

Connects the command with files and standard streams. All decisions are made elsewhere: here the
paths that were asked for are read, lines are handed over and answers are printed.
-/

namespace Mustache.Command

set_option autoImplicit false

/-- The number of a failure in the system's own count; it may be given as a negative number. -/
def systemNumber (code : UInt32) : Nat :=
  if code > 0x7fffffff then (0 - code).toNat else code.toNat

/-- The reason why a file cannot be read. -/
def failureOf (error : IO.Error) : ReadFailure :=
  match error with
  | .noFileOrDirectory _ _ _ => .notFound
  | .noSuchThing _ _ _ => .notFound
  | .permissionDenied _ _ _ => .denied
  | .inappropriateType _ code _ =>
    if systemNumber code = 20 then .notDirectory else .isDirectory
  | .invalidArgument _ code details =>
    if systemNumber code = 36 then .nameTooLong else .other details
  | other => .other other.toString

def readNow (path : String) : IO (Except ReadFailure String) := do
  try
    let bytes ← IO.FS.readBinFile path
    match String.fromUTF8? bytes with
    | some text => return .ok text
    | none => return .error .invalidText
  catch error => return .error (failureOf error)

/-- The disk that also knows the given paths. -/
def look (disk : Disk) : List String → IO Disk
  | [] => return disk
  | path :: rest => do
    let found ← readNow path
    look ⟨fun asked => if asked = path then some found else disk.read? asked⟩ rest

def print (printed : Printed) : IO Unit := do
  let out ← IO.getStdout
  out.putStr printed.out
  out.flush
  let err ← IO.getStderr
  err.putStr printed.err
  err.flush

/-- Executes the arguments up to the session; files are read as they are asked for. -/
partial def begin (disk : Disk) (arguments : List String) :
    IO (Except CommandError Opening) := do
  match execute disk arguments with
  | .ok opening => return .ok opening
  | .error (.failed error) => return .error error
  | .error (.unread paths) => begin (← look disk paths) arguments

/-- Hands a line to a session. A file is read when it is first asked for in a line. -/
partial def handOver (disk : Disk) (session : Session) (line : String) : IO Reply := do
  match (session.withDisk disk).feed line with
  | .ok reply => return reply
  | .error paths => handOver (← look disk paths) session line

/-- Goes on with a session until it ends. -/
partial def converse (session : Session) : IO Unit := do
  let line ← (← IO.getStdin).getLine
  if line.isEmpty then print ⟨Session.endOfInput, ""⟩
  else
    let reply ← handOver ⟨fun _ => none⟩ session (Session.lineOf line.toList)
    print reply.printed
    match reply.session? with
    | none => return
    | some next => converse next

end Mustache.Command

open Mustache.Command in
def main (arguments : List String) : IO UInt32 := do
  match ← begin ⟨fun _ => none⟩ arguments with
  | .error error =>
    print ⟨"", errorLine error.message⟩
    return 1
  | .ok opening =>
    print ⟨opening.out, ""⟩
    match opening.session? with
    | none => return 0
    | some session =>
      converse session
      return 0
