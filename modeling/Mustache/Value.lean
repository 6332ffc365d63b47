/-!
# Values

The data that templates are rendered against. Callables and host objects are functions on values,
so the same call always has the same result. Values are built from values made before them, so no
list, map, callable or host object reaches itself; data that is shared in a circle is left out.
-/

namespace Mustache

set_option autoImplicit false

/-- A callable with results of type `Result`. -/
inductive Callable (Result : Type) where
  /-- Takes nothing. -/
  | plain (result : Result)
  /-- Takes the source of the section that it is applied to, or the empty text in a value tag. -/
  | expander (expand : String → Result)
deriving Inhabited

/-- Data of the host that resolves names itself. A member is a value made before the object, never
the object, however many names are followed. -/
structure HostObject (Member : Type) where
  typeName : String
  isEmpty : Bool
  text : String
  member? : String → Option Member
deriving Inhabited

/-- A value that a template can look up. -/
inductive Value where
  | null
  | bool (truth : Bool)
  /-- An integer that fits 64 bits. -/
  | int (number : Int)
  | float (number : Float)
  | string (content : String)
  | list (items : List Value)
  /-- Values by name, in ascending order of the names, each name once. -/
  | map (entries : List (String × Value))
  | lambda (callable : Callable Value)
  | object (object : HostObject Value)

instance : Inhabited Value := ⟨.null⟩

/-- Calls with the source of a section. -/
def Callable.apply {Result : Type} (callable : Callable Result) (raw : String) : Result :=
  match callable with
  | .plain result => result
  | .expander expand => expand raw

/-- An object that states only its members: its type is `object`, it is never empty, and its text
is the type between angle brackets. -/
def HostObject.ofMembers {Member : Type} (typeName : String)
    (member? : String → Option Member) : HostObject Member :=
  ⟨typeName, false, "<" ++ typeName ++ ">", member?⟩

namespace Value

/-- Adds an entry to entries in ascending order; a later value for a name replaces the earlier. -/
def insertEntry (name : String) (value : Value) : List (String × Value) → List (String × Value)
  | [] => [(name, value)]
  | entry :: rest =>
    if name = entry.1 then (name, value) :: rest
    else if name < entry.1 then (name, value) :: entry :: rest
    else entry :: insertEntry name value rest

/-- The map of some pairs; the last value for a name counts. -/
def ofPairs (pairs : List (String × Value)) : Value :=
  .map (pairs.foldl (fun entries pair => insertEntry pair.1 pair.2 entries) [])

/-- The name of the type of a value. -/
def typeName : Value → String
  | null => "null"
  | bool _ => "bool"
  | int _ => "int"
  | float _ => "float"
  | string _ => "string"
  | list _ => "list"
  | map _ => "map"
  | lambda _ => "lambda"
  | .object host => host.typeName

/-- Whether the value is an empty text, list, map or object. -/
def isEmpty : Value → Bool
  | string content => content.isEmpty
  | list items => items.isEmpty
  | map entries => entries.isEmpty
  | .object host => host.isEmpty
  | _ => false

/-- Whether an inverted section over the value writes its body. -/
def isFalsy : Value → Bool
  | null => true
  | bool truth => !truth
  | value => value.isEmpty

/-- Whether the value is the absent one. -/
def isNull : Value → Bool
  | null => true
  | _ => false

end Value

end Mustache
