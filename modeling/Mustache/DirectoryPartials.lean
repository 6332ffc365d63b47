import Mustache.Disk
import Mustache.Partials

/-!
# Partials in a directory

The partial `name` is the file `name` with an extension, below a root directory. Names that could
lead out of that directory are refused before any file is looked at. Code is kept by name for good:
later changes of a file that was compiled are not seen.
-/

namespace Mustache

set_option autoImplicit false

/-- A directory of partials, the code made from them so far, and the ambient frame. -/
structure DirectoryPartials where
  disk : Disk
  root : String
  /-- The extension of the files, without its dot; empty for none. -/
  extension : String
  compiled : Table Compiled
  ambient : Option Value
  /-- How many templates were compiled so far. -/
  compilations : Nat
  /-- The paths that were asked for and that the disk had not looked at. -/
  unread : List String

namespace DirectoryPartials

def ofRoot (disk : Disk) (root extension : String) : DirectoryPartials :=
  ⟨disk, root, extension, Table.empty, none, 0, []⟩

/-- Sets the frame below the data of every render. -/
def setAmbient (partials : DirectoryPartials) (ambient : Value) : DirectoryPartials :=
  { partials with ambient := some ambient }

/-- Whether a name leads to a place below the root: it is not empty, it does not start at the root
of the file system or with a dot component, and no component leads up. -/
def isValidName (name : String) : Bool :=
  let characters := name.toList
  let components := FilePath.split characters
  !characters.isEmpty && !FilePath.isAbsolute characters && components.head? != some ['.'] &&
    components.all (· != ['.', '.'])

/-- The path of the file of a partial. -/
def pathFor (partials : DirectoryPartials) (name : String) : Except RunError String :=
  if isValidName name then
    let file := if partials.extension.isEmpty then name else name ++ "." ++ partials.extension
    .ok (FilePath.join partials.root file)
  else .error (RunError.ofCause (.invalidName name))

/-- Compiles the text of a file and keeps the code. -/
def load (partials : DirectoryPartials) (name path source : String) :
    Except RunError (Option Compiled) × DirectoryPartials :=
  match compilePartial name source (.file path) with
  | .error error => (.error error, partials)
  | .ok code =>
    let compiled : Compiled := ⟨code, partials.compilations⟩
    (.ok (some compiled),
      { partials with
        compiled := partials.compiled.insert name compiled
        compilations := partials.compilations + 1 })

/-- The code of a partial, read and compiled now if it is not at hand. A missing file is a missing
partial, and any other trouble with reading it is an error. -/
def lookUp (partials : DirectoryPartials) (name : String) :
    Except RunError (Option Compiled) × DirectoryPartials :=
  match partials.compiled.find? name with
  | some compiled => (.ok (some compiled), partials)
  | none =>
    match partials.pathFor name with
    | .error error => (.error error, partials)
    | .ok path =>
      match partials.disk.read? path with
      | none => (.ok none, { partials with unread := path :: partials.unread })
      | some (.ok source) => partials.load name path source
      | some (.error .notFound) => (.ok none, partials)
      | some (.error failure) =>
        (.error (RunError.ofCause (.unreadable path failure.message)), partials)

instance : Host DirectoryPartials where
  partial? partials name :=
    let found := partials.lookUp name
    (found.1.map fun compiled => compiled.map Compiled.code, found.2)
  expand partials text delimiters := (compileExpansion text delimiters, partials)
  ambient? := DirectoryPartials.ambient

end DirectoryPartials

end Mustache
