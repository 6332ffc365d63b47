import Mustache.Host
import Mustache.Table

/-!
# Partials in memory

A collection of templates by name. A template is compiled when it is first asked for and its code
is kept until its source is replaced; a template that does not compile is tried again the next
time.
-/

namespace Mustache

set_option autoImplicit false

/-- Code that a host keeps. The serial number tells two compilations of one name apart. -/
structure Compiled where
  code : Code
  serial : Nat
deriving Inhabited

/-- Compiles the output of a callable under the delimiters of its section. -/
def compileExpansion (text : String) (delimiters : Delimiters) : Except RunError Code :=
  (compile "" delimiters text).mapError fun error => RunError.ofCause (.inExpansion error)

def compilePartial (name source : String) (origin : PartialOrigin) : Except RunError Code :=
  (compile name Delimiters.standard source).mapError fun error =>
    RunError.ofCause (.inPartial origin error)

/-- Templates by name, the code made from them so far, and the ambient frame. -/
structure Partials where
  sources : Table String
  compiled : Table Compiled
  ambient : Option Value
  /-- How many templates were compiled so far. -/
  compilations : Nat
deriving Inhabited

namespace Partials

def empty : Partials := ⟨Table.empty, Table.empty, none, 0⟩

/-- Adds a template or replaces its source; code made from an earlier source is dropped. -/
def insert (partials : Partials) (name source : String) : Partials :=
  { partials with
    sources := partials.sources.insert name source
    compiled := partials.compiled.erase name }

/-- The templates of some pairs of name and source; the last source of a name counts. -/
def ofPairs (pairs : List (String × String)) : Partials :=
  pairs.foldl (fun partials pair => partials.insert pair.1 pair.2) empty

/-- Whether there is a template of that name. -/
def contains (partials : Partials) (name : String) : Bool := partials.sources.contains name

/-- Sets the frame below the data of every render. -/
def setAmbient (partials : Partials) (ambient : Value) : Partials :=
  { partials with ambient := some ambient }

/-- The code of a template, compiled now if it is not at hand. -/
def lookUp (partials : Partials) (name : String) : Except RunError (Option Compiled) × Partials :=
  match partials.compiled.find? name with
  | some compiled => (.ok (some compiled), partials)
  | none =>
    match partials.sources.find? name with
    | none => (.ok none, partials)
    | some source =>
      match compilePartial name source (.named name) with
      | .error error => (.error error, partials)
      | .ok code =>
        let compiled : Compiled := ⟨code, partials.compilations⟩
        (.ok (some compiled),
          { partials with
            compiled := partials.compiled.insert name compiled
            compilations := partials.compilations + 1 })

instance : Host Partials where
  partial? partials name :=
    let found := partials.lookUp name
    (found.1.map fun compiled => compiled.map Compiled.code, found.2)
  expand partials text delimiters := (compileExpansion text delimiters, partials)
  ambient? := Partials.ambient

end Partials

end Mustache
