import Mustache.Value.Lookup

/-!
# Contexts

A context is a stack of frames. A name is looked up in the frames from the top down, and the first
frame that defines it decides, even if it defines it as null. The further segments of a path are
looked up in the value found and nowhere else.
-/

namespace Mustache

set_option autoImplicit false

/-- The frames of a context, the top first. -/
structure Context where
  frames : List Value
deriving Inhabited

namespace Context

def empty : Context := ⟨[]⟩

def push (context : Context) (frame : Value) : Context := ⟨frame :: context.frames⟩

def pop (context : Context) : Option Value × Context :=
  match context.frames with
  | [] => (none, context)
  | frame :: rest => (some frame, ⟨rest⟩)

def depth (context : Context) : Nat := context.frames.length

/-- The top frame; null if there is none. -/
def top (context : Context) : Value := context.frames.head?.getD .null

/-- What the context binds to a name; null if no frame defines it. -/
def fetch (context : Context) (name : String) : Value :=
  (context.frames.findSome? fun frame => frame.member? name).getD .null

/-- The member of a value; null if it has none of that name. -/
def find (container : Value) (name : String) : Value := (container.member? name).getD .null

/-- Looks up a path: the first segment in the frames, each other in the value before it. -/
def resolve (context : Context) (path : List String) : Value :=
  match path with
  | [] => context.top
  | first :: rest => rest.foldl find (context.fetch first)

end Context

/-- What a section does with the value that it is opened on. -/
inductive SectionPlan where
  /-- Writes nothing. -/
  | skip
  /-- Writes the body once in the same context. -/
  | once
  /-- Writes the body once for each item, with the item as top frame. -/
  | iterate (items : List Value)
  /-- Writes the body once with the value as top frame. -/
  | enter (frame : Value)
  /-- Hands the source of the body to a callable. -/
  | expand (callable : Callable Value)

def SectionPlan.of : Value → SectionPlan
  | .null => skip
  | .bool truth => if truth then once else skip
  | .lambda callable => expand callable
  | .list items => if items.isEmpty then skip else iterate items
  | value => if value.isEmpty then skip else enter value

end Mustache
