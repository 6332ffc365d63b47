import Mustache.Text.Cluster.Kind

/-!
# Clusters

A text falls into clusters, the units that a reader takes for one character. A boundary lies
between two characters unless a rule keeps them together, and some rules look further back than
one character: at the marks between two consonants, at a joined pictograph, at how many halves of
flags have gone by. What they need of the text so far is kept in a small state.

Main statement: nothing is lost, `flatten_clusters`.
-/

namespace Mustache.Text

set_option autoImplicit false

namespace Cluster

/-- How far a sequence of two parts has come: not begun, begun by its first part, or ready for
its second. -/
inductive Progress
  | none
  | begun
  | ready
deriving Repr, DecidableEq

/-- What the rules know of a text that has been read so far. -/
structure Context where
  last : Kind
  /-- A pictograph and its marks; ready behind a joiner. -/
  pictographs : Progress
  /-- A consonant and its marks; ready when one of them is a linker. -/
  conjunct : Progress
  /-- Whether the halves of flags at the end are odd in number. -/
  halfFlag : Bool
deriving Repr, DecidableEq

/-- The context of the empty text, after which everything starts a cluster. -/
def Context.start : Context := ⟨.control, .none, .none, false⟩

/-- The pictographs that end in one more character. -/
def Progress.pictographs (progress : Progress) (kind : Kind) : Progress :=
  if kind = .pictograph then .begun
  else if progress = .begun && kind.isMark then .begun
  else if progress = .begun && kind = .joiner then .ready
  else .none

/-- The conjunct that ends in one more character. -/
def Progress.conjunct (progress : Progress) (kind : Kind) : Progress :=
  match kind with
  | .consonant => .begun
  | .linker => if progress = .none then .none else .ready
  | .extending | .joiner => progress
  | _ => .none

def Context.add (context : Context) (kind : Kind) : Context where
  last := kind
  pictographs := context.pictographs.pictographs kind
  conjunct := context.conjunct.conjunct kind
  halfFlag := kind = .regional && !context.halfFlag

/-- Whether the next character belongs to the cluster of the last one. -/
def Context.joins (context : Context) (next : Kind) : Bool :=
  if context.last.isAlone || next.isAlone then
    context.last = .carriageReturn && next = .lineFeed
  else
    next.attaches || context.last = .prepended || context.last.spells next ||
      next = .consonant && context.conjunct = .ready ||
      next = .pictograph && context.pictographs = .ready ||
      next = .regional && context.halfFlag

/-- A text that has been read so far: its clusters, newest first, each in reverse. -/
structure Reading where
  context : Context
  clusters : List (List Char)

def Reading.start : Reading := ⟨.start, []⟩

def Reading.add (reading : Reading) (character : Char) : Reading :=
  let kind := Kind.ofChar character
  ⟨reading.context.add kind,
    match reading.clusters with
    | [] => [[character]]
    | newest :: older =>
      if reading.context.joins kind then (character :: newest) :: older
      else [character] :: newest :: older⟩

/-- The text that has been read, in reverse. -/
theorem flatten_clusters_add (reading : Reading) (character : Char) :
    (reading.add character).clusters.flatten = character :: reading.clusters.flatten := by
  obtain ⟨context, clusters⟩ := reading
  cases clusters with
  | nil => rfl
  | cons newest older =>
    simp only [Reading.add]
    split <;> rfl

theorem flatten_clusters_foldl (text : List Char) (reading : Reading) :
    (text.foldl Reading.add reading).clusters.flatten =
      text.reverse ++ reading.clusters.flatten := by
  induction text generalizing reading with
  | nil => rfl
  | cons character rest ih =>
    rw [List.foldl_cons, ih, flatten_clusters_add, List.reverse_cons, List.append_assoc]
    rfl

end Cluster

/-- The clusters of a text, in order. -/
def clusters (text : List Char) : List (List Char) :=
  ((text.foldl Cluster.Reading.add .start).clusters.map List.reverse).reverse

theorem flatten_clusters (text : List Char) : (clusters text).flatten = text := by
  have reversed := Cluster.flatten_clusters_foldl text .start
  rw [clusters, ← List.reverse_flatten, reversed]
  simp [Cluster.Reading.start]

end Mustache.Text
