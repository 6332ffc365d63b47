import Mustache.Proofs.Overflows

/-!
# Assembling in any order

A builder takes its calls in any order. Whatever the order is, every word gets the location that was
set last, no pool holds a text twice, and what an answer designates when it is given, it designates
in the finished block.
-/

namespace Mustache

set_option autoImplicit false

/-- A call of a builder; an instruction may have any number of operands. -/
inductive BuilderCall where
  | setLocation (location : Location)
  | emit (word : UInt16) (operands : List UInt16)
  | addConstant (text : String)
  | addName (text : String)
  | addChild (child : Code)
  | addSection (entry : SectionEntry)

/-- What calls give a block to hold, table by table; each word has its location. -/
structure Contents where
  words : List (UInt16 × Location) := []
  constants : List String := []
  names : List String := []
  children : List Code := []
  sections : List SectionEntry := []

def Contents.append (first second : Contents) : Contents where
  words := first.words ++ second.words
  constants := first.constants ++ second.constants
  names := first.names ++ second.names
  children := first.children ++ second.children
  sections := first.sections ++ second.sections

namespace BuilderCall

/-- The location in force after a call. -/
def locationAfter (location : Location) : BuilderCall → Location
  | setLocation next => next
  | _ => location

/-- What a call gives when `location` is in force. -/
def contents (location : Location) : BuilderCall → Contents
  | setLocation _ => {}
  | emit word operands => { words := (word :: operands).map (·, location) }
  | addConstant text => { constants := [text] }
  | addName text => { names := [text] }
  | addChild child => { children := [child] }
  | addSection entry => { sections := [entry] }

def contentsFrom (location : Location) : List BuilderCall → Contents
  | [] => {}
  | first :: rest =>
    (first.contents location).append (contentsFrom (first.locationAfter location) rest)

/-- What the calls of a new builder give. -/
def contentsAll (calls : List BuilderCall) : Contents := contentsFrom .unset calls

/-- The answer to a call designates in the code what the call was about; `before` are the calls
that the builder had taken. An instruction stands behind all words emitted before it. -/
inductive Answered (code : Code) (before : List BuilderCall) : BuilderCall → Option Nat → Prop where
  | location (location : Location) : Answered code before (setLocation location) none
  | instruction {word : UInt16} {operands : List UInt16} {offset : Nat}
      (last : offset = (contentsAll before).words.length)
      (stands : word :: operands <+: code.words.toList.drop offset) :
      Answered code before (emit word operands) (some offset)
  | constant {text : String} {index : Nat} (found : code.constants[index]? = some text) :
      Answered code before (addConstant text) (some index)
  | name {text : String} {index : Nat} (found : code.names[index]? = some text) :
      Answered code before (addName text) (some index)
  | child {child : Code} {index : Nat} (found : code.children[index]? = some child) :
      Answered code before (addChild child) (some index)
  | entry {entry : SectionEntry} {index : Nat} (found : code.sections[index]? = some entry) :
      Answered code before (addSection entry) (some index)

/-- What was there when the answer was given is there in every block that begins so. -/
theorem Answered.mono {part whole : Code} {before : List BuilderCall} {call : BuilderCall}
    {answer : Option Nat} (answered : Answered part before call answer)
    (begins : part.Begins whole) : Answered whole before call answer := by
  cases answered with
  | location => exact .location _
  | instruction last stands => exact .instruction last (stands.trans (begins.words.drop _))
  | constant found => exact .constant (Code.getElem?_of_prefix begins.constants found)
  | name found => exact .name (Code.getElem?_of_prefix begins.names found)
  | child found => exact .child (Code.getElem?_of_prefix begins.children found)
  | entry found => exact .entry (Code.getElem?_of_prefix begins.sections found)

end BuilderCall

namespace Pool

theorem prefix_internAll (pool : Pool) (texts : List String) :
    pool.items.toList <+: (pool.internAll texts).items.toList := by
  induction texts generalizing pool with
  | nil => exact List.prefix_rfl
  | cons text texts ih => exact (prefix_intern pool text).trans (ih _)

/-- The index of a pool gives what a search through its items gives. -/
theorem Faithful.index_eq_idxOf? {pool : Pool} (faithful : pool.Faithful) (text : String) :
    pool.index[text]? = pool.items.toList.idxOf? text := by
  apply Option.ext
  intro index
  rw [faithful text index, ← Array.getElem?_toList, List.getElem?_eq_some_iff,
    List.idxOf?_eq_some_iff]
  constructor
  · rintro ⟨bound, rfl⟩
    refine ⟨bound, rfl, fun earlier before same => ?_⟩
    exact Nat.ne_of_lt before ((nodup_items faithful).getElem_inj_iff.1 same)
  · rintro ⟨bound, same, -⟩
    exact ⟨bound, same⟩

end Pool

namespace CodeBuilder

open BuilderCall

/-- The answer to a call, and the builder after it. -/
def call (builder : CodeBuilder) : BuilderCall → Option Nat × CodeBuilder
  | .setLocation location => (none, builder.setLocation location)
  | .emit word operands => (builder.emit word operands).map some id
  | .addConstant text => (builder.addConstant text).map some id
  | .addName text => (builder.addName text).map some id
  | .addChild child => (builder.addChild child).map some id
  | .addSection entry => (builder.addSection entry).map some id

def callAll (builder : CodeBuilder) (calls : List BuilderCall) : CodeBuilder :=
  calls.foldl (fun reached next => (reached.call next).2) builder

/-- The builder with more contents in its tables and with another location in force. -/
def add (builder : CodeBuilder) (contents : Contents) (location : Location) : CodeBuilder where
  name := builder.name
  words := builder.words ++ (contents.words.map Prod.fst).toArray
  locations := builder.locations ++ (contents.words.map Prod.snd).toArray
  constants := builder.constants.internAll contents.constants
  names := builder.names.internAll contents.names
  sections := builder.sections ++ contents.sections.toArray
  children := builder.children ++ contents.children.toArray
  location := location

theorem add_add (builder : CodeBuilder) (first second : Contents) (between last : Location) :
    (builder.add first between).add second last = builder.add (first.append second) last := by
  simp [add, Contents.append, Pool.internAll_append]

/-- A call adds what it gives under the location in force, and may set another location. -/
theorem call_eq_add (builder : CodeBuilder) (next : BuilderCall) :
    (builder.call next).2 =
      builder.add (next.contents builder.location) (next.locationAfter builder.location) := by
  cases next <;>
    simp [call, setLocation, emit_eq, addConstant, addName, addChild, addSection, add, contents,
      locationAfter, Pool.internAll, Function.comp_def]

/-- Calls add what they give, each under the location that the calls before it have set. -/
theorem callAll_eq_add (builder : CodeBuilder) (calls : List BuilderCall) :
    builder.callAll calls =
      builder.add (contentsFrom builder.location calls)
        (calls.foldl locationAfter builder.location) := by
  induction calls generalizing builder with
  | nil => simp [callAll, add, contentsFrom, Pool.internAll]
  | cons first rest ih =>
    change (builder.call first).2.callAll rest = _
    rw [ih, call_eq_add, add_add]
    rfl

theorem callAll_append (builder : CodeBuilder) (first second : List BuilderCall) :
    builder.callAll (first ++ second) = (builder.callAll first).callAll second :=
  List.foldl_append

/-- Nothing is taken out of a builder again. -/
theorem begins_callAll (builder : CodeBuilder) (calls : List BuilderCall) :
    builder.toCode.Begins (builder.callAll calls).toCode := by
  rw [callAll_eq_add]
  exact ⟨by simp [toCode, add], Pool.prefix_internAll _ _, Pool.prefix_internAll _ _,
    by simp [toCode, add], by simp [toCode, add], by simp [toCode, add]⟩

/-- What the builder holds is exactly what calls have given to it: for each word its location, and
each text once, which its index gives as a search through the texts would. -/
structure Represents (builder : CodeBuilder) (calls : List BuilderCall) : Prop where
  words : builder.words.toList = (contentsAll calls).words.map Prod.fst
  locations : builder.locations.toList = (contentsAll calls).words.map Prod.snd
  located : builder.locations.size = builder.words.size
  constants : Code.Lists builder.constants.items (contentsAll calls).constants
  names : Code.Lists builder.names.items (contentsAll calls).names
  constantIndex : ∀ text,
    builder.constants.index[text]? = builder.constants.items.toList.idxOf? text
  nameIndex : ∀ (text : String) (index : Nat),
    builder.names.index[text]? = some index ↔ builder.names.items[index]? = some text
  children : builder.children.toList = (contentsAll calls).children
  sections : builder.sections.toList = (contentsAll calls).sections

variable (name : String)

theorem faithful_callAll (calls : List BuilderCall) :
    ((start name).callAll calls).constants.Faithful ∧
      ((start name).callAll calls).names.Faithful := by
  rw [callAll_eq_add]
  exact ⟨Pool.faithful_internAll Pool.faithful_empty _,
    Pool.faithful_internAll Pool.faithful_empty _⟩

theorem represents_callAll (calls : List BuilderCall) :
    ((start name).callAll calls).Represents calls := by
  obtain ⟨constants, names⟩ := faithful_callAll name calls
  refine ⟨?_, ?_, ?_, ?_, ?_, constants.index_eq_idxOf?, names, ?_, ?_⟩ <;> rw [callAll_eq_add]
  · simp [add, start, contentsAll]
  · simp [add, start, contentsAll]
  · simp [add, start]
  · exact Code.lists_internAll _
  · exact Code.lists_internAll _
  · simp [add, start, contentsAll]
  · simp [add, start, contentsAll]

/-- An answer designates what the call was about when it is given. -/
theorem answered_call (before : List BuilderCall) (next : BuilderCall) :
    Answered (((start name).callAll before).call next).2.toCode before next
      (((start name).callAll before).call next).1 := by
  obtain ⟨constants, names⟩ := faithful_callAll name before
  cases next with
  | setLocation location => exact .location location
  | emit word operands =>
    have represents := represents_callAll name before
    have offset : ((start name).callAll before).offset = (contentsAll before).words.length := by
      rw [CodeBuilder.offset, ← Array.length_toList, represents.words, List.length_map]
    refine .instruction offset ?_
    rw [call_eq_add]
    simp [toCode, add, contents, CodeBuilder.offset, Function.comp_def]
  | addConstant text => exact .constant (Pool.getElem?_intern constants text)
  | addName text => exact .name (Pool.getElem?_intern names text)
  | addChild child => exact .child Array.getElem?_push_size
  | addSection entry => exact .entry Array.getElem?_push_size

/-- After any calls of a new builder, each word has the location that was in force when it was
emitted, and the pools hold each text that was added once, under the index that is looked up for it.
An answer designates what its call was about, and whatever calls follow, it still does so in the
finished block: an index the text, the child or the section entry, an offset the opcode with its
operands right behind it. -/
theorem callAll_represents :
    (∀ calls, ((start name).callAll calls).Represents calls) ∧
    ∀ (before after : List BuilderCall) (next : BuilderCall),
      Answered (((start name).callAll before).call next).2.toCode before next
          (((start name).callAll before).call next).1 ∧
        Answered ((start name).callAll (before ++ next :: after)).toCode before next
          (((start name).callAll before).call next).1 := by
  refine ⟨represents_callAll name, fun before after next => ?_⟩
  have answered := answered_call name before next
  refine ⟨answered, answered.mono ?_⟩
  rw [callAll_append]
  exact begins_callAll (((start name).callAll before).call next).2 after

end CodeBuilder

end Mustache
