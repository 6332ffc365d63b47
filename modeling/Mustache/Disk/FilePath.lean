/-!
# File paths

Paths are texts with slashes between their components. An empty component changes nothing, and
neither does a dot, except for a dot at the very front.
-/

namespace Mustache.FilePath

set_option autoImplicit false

/-- The texts between the slashes of a path, empty ones included. -/
def split : List Char → List (List Char)
  | [] => [[]]
  | character :: rest =>
    if character = '/' then [] :: split rest
    else
      match split rest with
      | [] => [[character]]
      | first :: others => (character :: first) :: others

/-- Whether a path starts at the root of the file system. -/
def isAbsolute (path : List Char) : Bool := path.head? == some '/'

/-- Whether a component names nothing: it is empty or a dot. -/
def isIdle (component : List Char) : Bool := component.isEmpty || component == ['.']

/-- The path of `file` as seen from `directory`. -/
def join (directory file : String) : String :=
  if isAbsolute file.toList then file
  else
    match directory.toList.getLast? with
    | none => file
    | some '/' => directory ++ file
    | some _ => directory ++ "/" ++ file

/-- The offsets at which the components that count end, for a row of components that starts at
`offset`. -/
def endsFrom (offset : Nat) : List (List Char) → List Nat
  | [] => []
  | component :: rest =>
    let stop := offset + component.length
    if isIdle component then endsFrom (stop + 1) rest else stop :: endsFrom (stop + 1) rest

/-- The offsets at which the components of a path end; a dot at the front is a component. -/
def componentEnds (path : List Char) : List Nat :=
  match split path with
  | ['.'] :: rest => 1 :: endsFrom 2 rest
  | components => endsFrom 0 components

/-- The path up to its last component. The root and the empty path have no parent. -/
def parent? (path : String) : Option String :=
  let characters := path.toList
  match (componentEnds characters).reverse with
  | [] => none
  | [_] => some (if isAbsolute characters then "/" else "")
  | _ :: stop :: _ => some (String.ofList (characters.take stop))

end Mustache.FilePath
