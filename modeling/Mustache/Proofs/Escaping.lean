import Mustache.Proofs.CompiledRun
import Mustache.Proofs.EscapedText
import Mustache.Proofs.Renderer

/-!
# Renders without markup

Data reaches the output through escaping, and literal text as it stands in the templates. Trees
without unescaped tags, rendered against data without callables, write nothing else: whatever is
put together from harmless texts by writing and indenting stays harmless, through all sections and
partials and also if the run stops half-way.
-/

namespace Mustache

set_option autoImplicit false

/-- A value with no callable in it, however deep. -/
inductive Value.LambdaFree : Value → Prop where
  | null : LambdaFree .null
  | bool (truth : Bool) : LambdaFree (.bool truth)
  | int (number : Int) : LambdaFree (.int number)
  | float (number : Float) : LambdaFree (.float number)
  | string (content : String) : LambdaFree (.string content)
  | list (items : List Value) : (∀ item ∈ items, LambdaFree item) → LambdaFree (.list items)
  | map (entries : List (String × Value)) :
      (∀ entry ∈ entries, LambdaFree entry.2) → LambdaFree (.map entries)
  | object (object : HostObject Value) :
      (∀ name member, object.member? name = some member → LambdaFree member) →
        LambdaFree (.object object)

namespace Value.LambdaFree

variable {value member : Value}

theorem mem_of_lookup {entries : List (String × Value)} {name : String}
    (found : entries.lookup name = some value) : ∃ entry ∈ entries, entry.2 = value := by
  induction entries with
  | nil => cases found
  | cons entry rest ih =>
    rw [List.lookup_cons] at found
    split at found
    · cases found
      exact ⟨entry, List.mem_cons_self, rfl⟩
    · obtain ⟨other, inside, same⟩ := ih found
      exact ⟨other, List.mem_cons_of_mem _ inside, same⟩

theorem member? (free : value.LambdaFree) {name : String}
    (found : value.member? name = some member) : member.LambdaFree := by
  cases free with
  | list items all =>
    obtain ⟨index, -, known⟩ := Option.bind_eq_some_iff.1 found
    exact all member (List.mem_of_getElem? known)
  | map entries all =>
    obtain ⟨entry, inside, rfl⟩ := mem_of_lookup found
    exact all entry inside
  | object object all => exact all name member found
  | null | bool | int | float | string => cases found

theorem getD {found : Option Value} (free : ∀ value, found = some value → value.LambdaFree) :
    (found.getD .null).LambdaFree := by
  cases found with
  | none => exact .null
  | some value => exact free value rfl

theorem find (free : value.LambdaFree) (name : String) : (Context.find value name).LambdaFree :=
  getD fun _ found => free.member? found

theorem foldl_find (free : value.LambdaFree) (names : List String) :
    (names.foldl Context.find value).LambdaFree := by
  induction names generalizing value with
  | nil => exact free
  | cons name names ih => exact ih (free.find name)

end Value.LambdaFree

def Context.LambdaFree (context : Context) : Prop := ∀ frame ∈ context.frames, frame.LambdaFree

namespace Context.LambdaFree

variable {context : Context}

theorem top (free : context.LambdaFree) : context.top.LambdaFree := by
  apply Value.LambdaFree.getD
  intro frame first
  exact free frame (List.mem_of_head? first)

theorem fetch (free : context.LambdaFree) (name : String) : (context.fetch name).LambdaFree := by
  apply Value.LambdaFree.getD
  intro value found
  obtain ⟨frame, inside, known⟩ := List.exists_of_findSome?_eq_some found
  exact (free frame inside).member? known

theorem resolve (free : context.LambdaFree) (path : List String) :
    (context.resolve path).LambdaFree := by
  cases path with
  | nil => exact free.top
  | cons first rest => exact (free.fetch first).foldl_find rest

theorem push (free : context.LambdaFree) {frame : Value} (added : frame.LambdaFree) :
    (context.push frame).LambdaFree := by
  intro other inside
  rcases List.mem_cons.1 inside with rfl | below
  · exact added
  · exact free other below

theorem pop (free : context.LambdaFree) : context.pop.2.LambdaFree := by
  obtain ⟨frames⟩ := context
  cases frames with
  | nil => exact free
  | cons frame rest =>
    intro other inside
    exact free other (List.mem_cons_of_mem _ inside)

end Context.LambdaFree

theorem Context.lambdaFree_frames {data : Value} (free : data.LambdaFree)
    (ambient? : Option Value) : (∀ frame, ambient? = some frame → frame.LambdaFree) →
    Context.LambdaFree ⟨match ambient? with
      | none => [data]
      | some ambient => [data, ambient]⟩ := by
  intro below
  cases ambient? with
  | none => simpa [LambdaFree] using free
  | some frame => simpa [LambdaFree] using ⟨free, below frame rfl⟩

namespace Node

mutual

/-- The literal texts of a tree: its text nodes, and the indentations of its partials. -/
def literals : Node → List String
  | .sequence children => literalsAll children
  | .text content => [content]
  | .block _ body _ _ _ => literalsAll body
  | .inverted _ body _ => literalsAll body
  | .partialTag _ indentation _ => [indentation]
  | .escaped _ _ => []
  | .unescaped _ _ => []
  | .comment _ _ => []
  | .delimiters _ _ => []

def literalsAll : List Node → List String
  | [] => []
  | node :: rest => literals node ++ literalsAll rest

end

mutual

/-- Whether no value is written unescaped anywhere in a tree. -/
def escapes : Node → Bool
  | .sequence children => escapesAll children
  | .unescaped _ _ => false
  | .block _ body _ _ _ => escapesAll body
  | .inverted _ body _ => escapesAll body
  | .text _ => true
  | .partialTag _ _ _ => true
  | .escaped _ _ => true
  | .comment _ _ => true
  | .delimiters _ _ => true

def escapesAll : List Node → Bool
  | [] => true
  | node :: rest => escapes node && escapesAll rest

end

/-- A tree that escapes all values and whose literal texts are allowed. -/
structure Tame (allowed : List Char → Prop) (node : Node) : Prop where
  escapes : node.escapes = true
  literals : ∀ literal ∈ node.literals, allowed literal.toList

structure TameAll (allowed : List Char → Prop) (nodes : List Node) : Prop where
  escapes : escapesAll nodes = true
  literals : ∀ literal ∈ literalsAll nodes, allowed literal.toList

variable {allowed : List Char → Prop}

theorem TameAll.cons {node : Node} {rest : List Node} (tame : TameAll allowed (node :: rest)) :
    node.Tame allowed ∧ TameAll allowed rest := by
  obtain ⟨escapes, literals⟩ := tame
  rw [escapesAll, Bool.and_eq_true] at escapes
  simp only [literalsAll, List.mem_append] at literals
  exact ⟨⟨escapes.1, fun _ inside => literals _ (.inl inside)⟩,
    ⟨escapes.2, fun _ inside => literals _ (.inr inside)⟩⟩

theorem tameAll_singleton {node : Node} (tame : node.Tame allowed) : TameAll allowed [node] := by
  constructor
  · simp [escapesAll, tame.escapes]
  · intro literal inside
    simp only [literalsAll, List.append_nil] at inside
    exact tame.literals literal inside

end Node

/-- From fitting states a host answers with partials whose trees are among `trees`. What it makes
of the output of callables is left open. -/
structure Host.Serves {State : Type} [Host State] (trees : Node → Prop) (fit : State → Prop) :
    Prop where
  keeps : ∀ (state : State) (name : String), fit state → fit (Host.partial? state name).2
  partial? : ∀ (state : State) (name : String) (code : Code), fit state →
    (Host.partial? state name).1 = .ok (some code) → ∃ node, trees node ∧ node.Generates code

variable {State : Type}

/-- A run that escapes, without callables in its context, and has written nothing harmful. -/
structure RunState.Clean (fit : State → Prop) (holds : List Char → Prop)
    (state : RunState State) : Prop where
  context : state.context.LambdaFree
  escaping : state.output.escaping = .html
  text : holds state.output.text.toList
  host : fit state.host

namespace Run

variable {Result Other : Type} {fit : State → Prop} {allowed holds : List Char → Prop}

/-- From clean states the run ends in clean states, also if it stops. -/
def Keeps (fit : State → Prop) (holds : List Char → Prop) (run : Run State Result) : Prop :=
  ∀ state, state.Clean fit holds → (run state).2.Clean fit holds

namespace Keeps

theorem pure (result : Result) : Keeps fit holds (Pure.pure result : Run State Result) :=
  fun _ clean => clean

theorem fail (cause : RunCause) : Keeps fit holds (Run.fail cause : Run State Result) :=
  fun _ clean => clean

theorem bind {first : Run State Result} {next : Result → Run State Other}
    (firsts : Keeps fit holds first) (nexts : ∀ result, Keeps fit holds (next result)) :
    Keeps fit holds (first >>= next) := by
  intro state clean
  exact bind_after (RunState.Clean fit holds) (firsts state clean)
    fun result after kept => nexts result after kept

theorem located (location : Option Location) {body : Run State Result}
    (bodies : Keeps fit holds body) : Keeps fit holds (Run.located location body) := by
  intro state clean
  rw [located_after]
  exact bodies state clean

theorem withFrame {frame : Value} (free : frame.LambdaFree) {body : Run State Result}
    (bodies : Keeps fit holds body) : Keeps fit holds (Run.withFrame frame body) := by
  intro state clean
  have kept := bodies { state with context := state.context.push frame }
    ⟨clean.context.push free, clean.escaping, clean.text, clean.host⟩
  exact ⟨kept.context.pop, kept.escaping, kept.text, kept.host⟩

theorem forEach {body : Value → Run State Unit} {items : List Value}
    (bodies : ∀ item ∈ items, Keeps fit holds (body item)) :
    Keeps fit holds (Run.forEach body items) := by
  induction items with
  | nil => exact pure ()
  | cons item items ih =>
    apply bind (bodies item List.mem_cons_self)
    intro _
    exact ih fun other inside => bodies other (List.mem_cons_of_mem _ inside)

/-- What is done with the value of a path is done with a value that no callable is in. -/
theorem valueOf {path : Path} {use : Value → Run State Other}
    (uses : ∀ value : Value, value.LambdaFree → Keeps fit holds (use value)) :
    Keeps fit holds (Node.valueOf path >>= use) := by
  intro state clean
  exact uses (state.context.resolve path.segments) (clean.context.resolve _) state clean

section Output

variable (harmless : Text.Harmless allowed holds)

include harmless

theorem write {text : String} (allows : allowed text.toList) :
    Keeps fit holds (Run.write text : Run State Unit) := by
  intro state clean
  refine ⟨clean.context, clean.escaping, ?_, clean.host⟩
  change holds (state.output.text ++ text).toList
  rw [String.toList_append]
  exact harmless.append _ _ clean.text (harmless.literal _ allows)

theorem writeEscaped (text : String) :
    Keeps fit holds (Run.writeEscaped text : Run State Unit) := by
  intro state clean
  refine ⟨clean.context, clean.escaping, ?_, clean.host⟩
  change holds (state.output.text ++ Output.escape state.output.escaping text).toList
  rw [clean.escaping, String.toList_append]
  apply harmless.append _ _ clean.text
  unfold Output.escape Text.escapeHtml
  rw [String.toList_ofList]
  exact harmless.escaped _

/-- What is written behind an indentation is appended as trusted text, and is clean already. -/
theorem indented {indentation : String} (allows : allowed indentation.toList)
    {body : Run State Unit} (bodies : Keeps fit holds body) :
    Keeps fit holds (Run.indented indentation body) := by
  intro state clean
  have kept := bodies { state with output := Output.empty state.output.escaping }
    ⟨clean.context, clean.escaping, harmless.nil, clean.host⟩
  unfold Run.indented
  dsimp only
  -- If the body stops, the outer output comes back as it was.
  cases ran : body { state with output := Output.empty state.output.escaping } with
  | mk outcome after =>
    rw [ran] at kept
    cases outcome with
    | error reason => exact ⟨kept.context, clean.escaping, clean.text, kept.host⟩
    | ok result =>
      refine ⟨kept.context, clean.escaping, ?_, kept.host⟩
      change holds (state.output.text ++ Text.indent after.output.text indentation).toList
      rw [String.toList_append, Text.indent, String.toList_ofList]
      exact harmless.append _ _ clean.text (harmless.indented _ _ allows kept.text)

end Output

/-- A section keeps clean what its body keeps clean; there is no callable to be applied. -/
theorem table {body : Run State Unit} (bodies : Keeps fit holds body)
    (call : Callable Value → Run State Unit) {value : Value} (free : value.LambdaFree) :
    Keeps fit holds (Run.table body call value) := by
  have entered {shown : Value} (inside : shown.LambdaFree) : Keeps fit holds
      (if shown.isEmpty then Pure.pure () else Run.withFrame shown body) := by
    split
    · exact pure ()
    · exact withFrame inside bodies
  cases free with
  | null => exact pure ()
  | bool truth =>
    cases truth with
    | false => exact pure ()
    | true => exact bodies
  | list items all => exact forEach fun item inside => withFrame (all item inside) bodies
  | int number => exact entered (.int number)
  | float number => exact entered (.float number)
  | string content => exact entered (.string content)
  | map entries all => exact entered (.map entries all)
  | object object all => exact entered (.object object all)

end Keeps

variable [Host State] {trees : Node → Prop} {limit remaining : Nat}

def KeepsBelow (trees : Node → Prop) (fit : State → Prop) (holds : List Char → Prop)
    (limit remaining : Nat) : Prop :=
  ∀ below, remaining = below + 1 → ∀ node code, trees node → node.Generates code →
    Keeps fit holds (execute limit below (Frame.start code) : Run State Unit)

/-- The answer of the host is nothing, or the code of one of the trees. -/
theorem keeps_ask (serves : Host.Serves trees fit) (name : String)
    {next : Option Code → Run State Other} (none : Keeps fit holds (next none))
    (some : ∀ node code, trees node → node.Generates code → Keeps fit holds (next (some code))) :
    Keeps fit holds ((ask fun host => Host.partial? host name) >>= next) := by
  intro state clean
  have kept := serves.keeps state.host name clean.host
  have known := serves.partial? state.host name
  simp only [bind_def, andThen, ask]
  cases answer : (Host.partial? state.host name).1 with
  | error reason => exact ⟨clean.context, clean.escaping, clean.text, kept⟩
  | ok found =>
    have after : RunState.Clean fit holds
        { state with host := (Host.partial? state.host name).2 } :=
      ⟨clean.context, clean.escaping, clean.text, kept⟩
    cases found with
    | none => exact none _ after
    | some code =>
      obtain ⟨node, among, generates⟩ := known code clean.host answer
      exact some node code among generates _ after

theorem keeps_partialTag (harmless : Text.Harmless allowed holds) (serves : Host.Serves trees fit)
    (name : String) {indentation : String} (allows : allowed indentation.toList) :
    KeepsBelow trees fit holds limit remaining →
    Keeps fit holds (match remaining with
      | 0 => fail (.depthExceeded limit)
      | below + 1 => do
        let found ← ask fun host => Host.partial? host name
        match found with
        | none => pure ()
        | some template =>
          if indentation.isEmpty then execute limit below (Frame.start template)
          else indented indentation (execute limit below (Frame.start template)) :
      Run State Unit) := by
  intro below
  cases remaining with
  | zero => exact Keeps.fail _
  | succ remaining =>
    apply keeps_ask serves name (Keeps.pure ())
    intro node code among generates
    have template := below remaining rfl node code among generates
    dsimp only
    split
    · exact template
    · exact Keeps.indented harmless allows template

mutual

/-- Where a block lays a tame tree, running it stays clean if running on behind it does. -/
theorem keeps_of_lays (harmless : Text.Harmless allowed holds) (serves : Host.Serves trees fit)
    (below : KeepsBelow trees fit holds limit remaining) (node : Node) (tame : node.Tame allowed)
    {code : Code} {start stop : Nat} (lays : code.Lays start node stop)
    (later : Keeps fit holds
      (execute limit remaining (Frame.atOffset code stop) : Run State Unit)) :
    Keeps fit holds (execute limit remaining (Frame.atOffset code start) : Run State Unit) := by
  cases node with
  | sequence children =>
    rw [Code.Lays] at lays
    exact keeps_of_laysAll harmless serves below children ⟨tame.escapes, tame.literals⟩ lays later
  | text content =>
    rw [Code.Lays] at lays
    rcases lays with ⟨-, rfl⟩ | ⟨index, found, reads⟩
    · exact later
    · rw [execute_of_holds reads (by simp), perform_text found]
      have written := tame.literals content (List.mem_singleton_self _)
      exact Keeps.bind (Keeps.located _ (Keeps.write harmless written)) fun _ => later
  | escaped path position =>
    rw [Code.Lays] at lays
    obtain ⟨tag, resolves, reads⟩ := lays
    rw [execute_of_use _ resolves reads (by simp) perform_escapedTag]
    apply Keeps.bind _ fun _ => later
    apply Keeps.located
    apply Keeps.valueOf
    intro value _
    exact Keeps.writeEscaped harmless _
  | unescaped path position => exact absurd tame.escapes Bool.false_ne_true
  | block path body raw pair position =>
    rw [Code.Lays] at lays
    obtain ⟨tag, index, entry, child, last, resolves, -, reads, known, found, nodes, halt⟩ := lays
    have inner : Keeps fit holds (execute limit remaining (Frame.start child) : Run State Unit) := by
      apply keeps_of_laysAll harmless serves below body ⟨tame.escapes, tame.literals⟩ nodes
      rw [execute_of_halt halt]
      exact Keeps.pure ()
    rw [execute_of_use _ resolves reads (by simp) (perform_block known found)]
    apply Keeps.bind _ fun _ => later
    apply Keeps.located
    apply Keeps.valueOf
    intro value free
    exact inner.table _ free
  | inverted path body position =>
    rw [Code.Lays] at lays
    obtain ⟨tag, index, child, last, resolves, -, reads, found, nodes, halt⟩ := lays
    have inner : Keeps fit holds (execute limit remaining (Frame.start child) : Run State Unit) := by
      apply keeps_of_laysAll harmless serves below body ⟨tame.escapes, tame.literals⟩ nodes
      rw [execute_of_halt halt]
      exact Keeps.pure ()
    rw [execute_of_use _ resolves reads (by simp) (perform_inverted found)]
    apply Keeps.bind _ fun _ => later
    apply Keeps.located
    apply Keeps.valueOf
    intro value _
    split
    · exact inner
    · exact Keeps.pure ()
  | partialTag name indentation position =>
    rw [Code.Lays] at lays
    obtain ⟨nameIndex, indentationIndex, -, reads, named, indented⟩ := lays
    rw [execute_of_holds reads (by simp), perform_partialTag named indented]
    apply Keeps.bind _ fun _ => later
    apply Keeps.located
    have allows := tame.literals indentation (List.mem_singleton_self _)
    exact keeps_partialTag harmless serves name allows below
  | comment content position =>
    rw [Code.Lays] at lays
    rw [← lays]
    exact later
  | delimiters pair position =>
    rw [Code.Lays] at lays
    rw [← lays]
    exact later

theorem keeps_of_laysAll (harmless : Text.Harmless allowed holds) (serves : Host.Serves trees fit)
    (below : KeepsBelow trees fit holds limit remaining) (nodes : List Node)
    (tame : Node.TameAll allowed nodes) {code : Code} {start stop : Nat}
    (lays : code.LaysAll start nodes stop)
    (later : Keeps fit holds
      (execute limit remaining (Frame.atOffset code stop) : Run State Unit)) :
    Keeps fit holds (execute limit remaining (Frame.atOffset code start) : Run State Unit) := by
  cases nodes with
  | nil =>
    rw [Code.LaysAll] at lays
    rw [← lays]
    exact later
  | cons first rest =>
    rw [Code.LaysAll] at lays
    obtain ⟨next, begin, others⟩ := lays
    obtain ⟨head, tail⟩ := tame.cons
    apply keeps_of_lays harmless serves below first head begin
    exact keeps_of_laysAll harmless serves below rest tail others later

end

theorem keeps_of_laysBody (harmless : Text.Harmless allowed holds)
    (serves : Host.Serves trees fit) (below : KeepsBelow trees fit holds limit remaining)
    {node : Node} (tame : node.Tame allowed) {code : Code} (generates : node.Generates code) :
    Keeps fit holds (execute limit remaining (Frame.start code) : Run State Unit) := by
  obtain ⟨name, built⟩ := generates
  obtain ⟨last, nodes, halt⟩ := Node.laysBody_toCode built
  apply keeps_of_laysAll harmless serves below [node] (Node.tameAll_singleton tame) nodes
  rw [execute_of_halt halt]
  exact Keeps.pure ()

/-- The code of a tame tree stays clean at every depth, if the host serves tame trees only. -/
theorem keeps_execute (harmless : Text.Harmless allowed holds) (serves : Host.Serves trees fit)
    (tame : ∀ node, trees node → node.Tame allowed) (limit remaining : Nat) {node : Node}
    (among : trees node) {code : Code} (generates : node.Generates code) :
    Keeps fit holds (execute limit remaining (Frame.start code) : Run State Unit) := by
  -- A partial is another tree, but one level deeper.
  induction remaining generalizing node code with
  | zero =>
    refine keeps_of_laysBody harmless serves ?_ (tame node among) generates
    intro below impossible
    omega
  | succ remaining ih =>
    refine keeps_of_laysBody harmless serves ?_ (tame node among) generates
    intro below same other template inside made
    cases same
    exact ih inside made

end Run

namespace Machine

variable [Host State] {trees : Node → Prop} {fit : State → Prop} {allowed holds : List Char → Prop}

theorem holds_render (harmless : Text.Harmless allowed holds) (serves : Host.Serves trees fit)
    (tame : ∀ node, trees node → node.Tame allowed) {machine : Machine}
    (escaping : machine.options.escaping = .html) {node : Node} (among : trees node) {code : Code}
    (generates : node.Generates code) {data : Value} (free : data.LambdaFree) {host : State}
    (fits : fit host)
    (ambient : ∀ frame, Host.ambient? host = some frame → frame.LambdaFree) :
    holds (machine.render code data host).output.text.toList := by
  have keeps := Run.keeps_execute harmless serves tame machine.options.depthLimit
    machine.options.depthLimit among generates
  unfold render renderInto
  refine (keeps _ ?_).text
  exact ⟨Context.lambdaFree_frames free _ ambient, escaping, harmless.nil, fits⟩

end Machine

namespace Partials

/-- Partials whose sources stand for some trees. -/
structure Parses (trees : Node → Prop) (partials : Partials) : Prop where
  current : partials.Current
  among : ∀ (name source : String) (node : Node), partials.sources.find? name = some source →
    parse Delimiters.standard source = .ok node → trees node

theorem serves (trees : Node → Prop) : Host.Serves trees (Parses trees) where
  keeps partials name parses := by
    refine ⟨(parses.current.partial? name).2, ?_⟩
    rw [(partials.grows_partial? name).sources]
    exact parses.among
  partial? partials name code parses answered := by
    rw [(parses.current.partial? name).1] at answered
    obtain ⟨source, node, known, parsed, generates⟩ := exists_of_templateOf answered
    exact ⟨node, parses.among name source node known parsed, generates⟩

end Partials

/-- Rendered output holds no markup that came from data. Let a host serve trees that escape all
values, and let there be no callables in the data and the ambient frame; the output of one of the
trees, as far as the render gets, has no character of markup that is in none of their literal texts,
and if no ampersand is in these, every ampersand in the output begins an entity. -/
theorem render_escapes [Host State] {trees : Node → Prop} {fit : State → Prop}
    (serves : Host.Serves trees fit) (escapes : ∀ node, trees node → node.escapes = true)
    (machine : Machine) (escaping : machine.options.escaping = .html) (node : Node)
    (among : trees node) (name : String) (code : Code) (built : node.toCode name = .ok code)
    (data : Value) (free : data.LambdaFree) (host : State) (fits : fit host)
    (ambient : ∀ frame, Host.ambient? host = some frame → frame.LambdaFree) :
    let written := (machine.render code data host).output.text.toList
    (∀ character ∈ Text.markup,
      (∀ node, trees node → ∀ literal ∈ node.literals, character ∉ literal.toList) →
        character ∉ written) ∧
    ((∀ node, trees node → ∀ literal ∈ node.literals, '&' ∉ literal.toList) →
      ∀ before after, written = before ++ '&' :: after →
        ∃ entity ∈ Text.entities, entity <+: after) := by
  intro written
  have generates : node.Generates code := ⟨name, built⟩
  refine ⟨?_, ?_⟩
  · intro character special absent
    have tame (other : Node) (inside : trees other) :
        other.Tame fun text => character ∉ text := ⟨escapes other inside, absent other inside⟩
    exact Machine.holds_render (Text.harmless_notMem special) serves tame escaping among generates
      free fits ambient
  · intro absent before after split
    have tame (other : Node) (inside : trees other) :
        other.Tame fun text => '&' ∉ text := ⟨escapes other inside, absent other inside⟩
    have whole : Text.Entities written := Machine.holds_render Text.harmless_entities serves tame
      escaping among generates free fits ambient
    rw [split] at whole
    exact Text.exists_entity whole

/-- A template that indents a partial, and the tree of that partial. -/
def Node.indenting : List Node :=
  [.partialTag "p" " " Position.start, .sequence [.escaped ⟨["x"]⟩ Position.start]]

theorem Partials.parses_indenting :
    (Partials.ofPairs [("p", "\x7b\x7bx\x7d\x7d")]).Parses fun node => node ∈ Node.indenting := by
  constructor
  · intro name compiled found
    cases found
  · intro name source node found parsed
    have known : source = "\x7b\x7bx\x7d\x7d" := by
      simp only [Partials.ofPairs, List.foldl, Partials.insert, Table.find?_insert, Partials.empty,
        Table.find?_empty] at found
      grind
    have inner : parse Delimiters.standard "\x7b\x7bx\x7d\x7d" =
        .ok (.sequence [.escaped ⟨["x"]⟩ Position.start]) := by cbv
    rw [known, inner] at parsed
    cases parsed
    exact List.mem_cons_of_mem _ List.mem_cons_self

def Code.indenting : Code :=
  ⟨"", #[32, 0, 1, 1], #["p", " "], #[], #[], #[], #[⟨1, 1⟩, ⟨1, 1⟩, ⟨1, 1⟩, ⟨1, 1⟩]⟩

theorem render_escapes_indenting :
    let partials := Partials.ofPairs [("p", "\x7b\x7bx\x7d\x7d")]
    let data := Value.map [("x", .string "<b>&")]
    let written :=
      ((Machine.new Options.standard).render Code.indenting data partials).output.text.toList
    written = " &lt;b&gt;&amp;".toList ∧ '<' ∉ written ∧
      ∀ before after, written = before ++ '&' :: after →
        ∃ entity ∈ Text.entities, entity <+: after := by
  intro partials data written
  have built : (Node.partialTag "p" " " Position.start).toCode "" = .ok Code.indenting := by cbv
  have free : data.LambdaFree := by
    apply Value.LambdaFree.map
    intro entry inside
    cases List.mem_singleton.1 inside
    exact .string _
  have escapes : ∀ node ∈ Node.indenting, node.escapes = true := by
    simp [Node.indenting, Node.escapes, Node.escapesAll]
  have literals (character : Char) (other : character ≠ ' ') : ∀ node ∈ Node.indenting,
      ∀ literal ∈ node.literals, character ∉ literal.toList := by
    simp [Node.indenting, Node.literals, Node.literalsAll, other]
  obtain ⟨absent, entities⟩ := render_escapes (Partials.serves _) escapes
    (Machine.new Options.standard) rfl _ List.mem_cons_self "" _ built data free partials
    Partials.parses_indenting
    (by simp [Host.ambient?, partials, Partials.ofPairs, Partials.insert, Partials.empty])
  refine ⟨?_, ?_, ?_⟩
  · subst written data partials
    cbv
  · exact absent '<' (by decide) (literals '<' (by decide))
  · exact entities (literals '&' (by decide))

end Mustache
