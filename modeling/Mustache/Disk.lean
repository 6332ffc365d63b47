import Mustache.Disk.FilePath

/-!
# Reading files

What can be said about a path: the text of a file, or why there is none. A tree of files answers
for every path below the working directory; other sources may not know a path yet.
-/

namespace Mustache

set_option autoImplicit false

/-- Why the text of a path cannot be read. -/
inductive ReadFailure where
  | notFound
  | notDirectory
  | isDirectory
  | nameTooLong
  | denied
  /-- The path has a character that no file name has. -/
  | invalidName
  /-- The bytes of the file are not UTF-8. -/
  | invalidText
  /-- Any other reason, in the words of the system. -/
  | other (reason : String)
deriving Repr, DecidableEq, Inhabited

namespace ReadFailure

/-- The reason in the words of the system. -/
def message : ReadFailure → String
  | notFound => "No such file or directory (os error 2)"
  | notDirectory => "Not a directory (os error 20)"
  | isDirectory => "Is a directory (os error 21)"
  | nameTooLong => "File name too long (os error 36)"
  | denied => "Permission denied (os error 13)"
  | invalidName => "file name contained an unexpected NUL byte"
  | invalidText => "stream did not contain valid UTF-8"
  | other reason => reason

/-- Whether there is something at the path that cannot be read. -/
def somethingThere : ReadFailure → Bool
  | isDirectory => true
  | denied => true
  | invalidText => true
  | _ => false

end ReadFailure

/-- Files by path. `none` stands for a path that was not looked at yet. -/
structure Disk where
  read? : String → Option (Except ReadFailure String)

/-- A file or a directory of a tree. -/
inductive DiskEntry where
  | file (content : ByteArray)
  | directory
deriving Inhabited

/-- Files and directories below the working directory, by the components of their paths. Every
directory above an entry is an entry too. -/
structure DiskTree where
  entries : List (List String × DiskEntry)
deriving Inhabited

namespace DiskTree

def empty : DiskTree := ⟨[]⟩

/-- The entry of a path; the working directory is always there. -/
def find? (tree : DiskTree) (path : List String) : Option DiskEntry :=
  if path.isEmpty then some .directory else tree.entries.lookup path

/-- The names in a path, without idle components. -/
def components (path : String) : List String :=
  ((FilePath.split path.toList).filter fun component => !FilePath.isIdle component).map
    String.ofList

/-- Makes the directories with these names one inside the other. -/
def makeDirectories (tree : DiskTree) (directory : List String) : List String → DiskTree
  | [] => tree
  | name :: rest =>
    let path := directory ++ [name]
    if (tree.find? path).isSome then tree.makeDirectories path rest
    else (DiskTree.mk ((path, .directory) :: tree.entries)).makeDirectories path rest

/-- Writes a file and the directories above it. -/
def write (tree : DiskTree) (path : String) (content : ByteArray) : DiskTree :=
  let names := components path
  let grown := tree.makeDirectories [] names.dropLast
  ⟨(names, .file content) :: grown.entries.filter fun entry => entry.1 != names⟩

/-- Removes a file; the directories above it stay. -/
def remove (tree : DiskTree) (path : String) : DiskTree :=
  let names := components path
  ⟨tree.entries.filter fun entry => entry.1 != names⟩

/-- Whether a component leads no further down: it is idle, or two dots. -/
def staysAbove (component : List Char) : Bool :=
  FilePath.isIdle component || component == ['.', '.']

/-- Whether a component is longer than any name that a file can have. -/
def isTooLong (component : List Char) : Bool := (String.ofList component).utf8ByteSize > 255

/-- What lies at the end of components that start outside of the working directory, where the
directories count as empty. -/
def outside (components : List (List Char)) : Except ReadFailure DiskEntry :=
  match components.find? fun component => !staysAbove component with
  | none => .ok .directory
  | some name => if isTooLong name then .error .nameTooLong else .error .notFound

/-- Follows components from a directory. Names are looked up in directories only, and two dots lead
back up. -/
def follow (tree : DiskTree) (directory : List String) :
    List (List Char) → Except ReadFailure DiskEntry
  | [] => .ok .directory
  | component :: rest =>
    if FilePath.isIdle component then tree.follow directory rest
    else if component = ['.', '.'] then
      if directory.isEmpty then outside rest else tree.follow directory.dropLast rest
    else if isTooLong component then .error .nameTooLong
    else
      let path := directory ++ [String.ofList component]
      match tree.find? path with
      | none => .error .notFound
      | some .directory => tree.follow path rest
      | some (.file content) => if rest.isEmpty then .ok (.file content) else .error .notDirectory

def locate (tree : DiskTree) (path : String) : Except ReadFailure DiskEntry :=
  let characters := path.toList
  if characters.contains '\x00' then .error .invalidName
  else if path.utf8ByteSize ≥ 4096 then .error .nameTooLong
  else if characters.isEmpty then .error .notFound
  else if FilePath.isAbsolute characters then outside (FilePath.split characters)
  else tree.follow [] (FilePath.split characters)

/-- The text of the file at a path. -/
def read (tree : DiskTree) (path : String) : Except ReadFailure String :=
  match tree.locate path with
  | .error failure => .error failure
  | .ok .directory => .error .isDirectory
  | .ok (.file content) =>
    match String.fromUTF8? content with
    | some text => .ok text
    | none => .error .invalidText

/-- The tree as a source of files. -/
def toDisk (tree : DiskTree) : Disk := ⟨fun path => some (tree.read path)⟩

end DiskTree

end Mustache
