import Mustache.DirectoryPartials
import Mustache.Proofs.CompiledRun
import Mustache.Proofs.LexedTags
import Mustache.Proofs.LexemeReading
import Mustache.Proofs.MonitoredRuns
import Mustache.Proofs.Nesting
import Mustache.Template

/-!
# Text without tags

A text in which the opening delimiter does not occur is one literal text, whatever else it holds.
It always compiles, and running its code writes the text and does nothing else. So the texts of
callables that a section writes as they are need no expansion: it would write the same.
-/

namespace Mustache

set_option autoImplicit false

variable {delimiters : Delimiters} {text : String}

namespace Delimiters

/-- The mark is the opening text, unless that opens no tag. -/
theorem mark_cases (delimiters : Delimiters) :
    delimiters.mark = [] ∨ delimiters.mark = delimiters.opening.toList := by
  unfold mark
  cases delimiters.opening.toList with
  | nil => exact .inl rfl
  | cons first rest =>
    cases blank : Text.isBlank first with
    | true => exact .inl (by simp [blank])
    | false => exact .inr (by simp [blank])

theorem not_infix_mark {characters : List Char}
    (untagged : ¬ delimiters.opening.toList <:+: characters) (marked : delimiters.mark ≠ []) :
    ¬ delimiters.mark <:+: characters := by
  rcases delimiters.mark_cases with empty | same
  · exact absurd empty marked
  · rwa [same]

end Delimiters

theorem Text.contains_eq_false_iff {literal characters : List Char} :
    contains literal characters = false ↔ ¬ literal <:+: characters := by
  cases literal with
  | nil => simp [contains]
  | cons head tail =>
    have filled : head :: tail ≠ [] := List.cons_ne_nil head tail
    have none : contains (head :: tail) characters = false ↔
        splitAt? (head :: tail) characters = none := by simp [contains]
    rw [none]
    constructor
    · rintro uncut ⟨before, after, split⟩
      have absent := (splitAt?_eq_none_iff filled).1 uncut
      rw [List.append_assoc] at split
      have begins : head :: tail <+: (head :: tail) ++ after ++ [] := by
        rw [List.append_nil]
        exact List.prefix_append _ _
      exact absent before (head :: tail ++ after) split.symm (by simp) begins
    · intro outside
      exact (splitAt?_eq_none_iff filled).2 (absentBefore_of_not_isInfix outside)

namespace Lexer

variable {lexer : Lexer}

theorem collect_of_untagged (untagged : ¬ lexer.delimiters.opening.toList <:+: lexer.cursor.rest) :
    lexer.collect [] =
      ⟨if lexer.cursor.rest.isEmpty then [] else [.text lexer.cursor.rest], none⟩ := by
  by_cases ended : lexer.cursor.rest = []
  · rw [collect_of_none [] (next?_eq_none_iff.2 ended), ended]
    rfl
  · rw [collect_of_ok [] (next?_of_untagged (Delimiters.not_infix_mark untagged) ended),
      collect_of_none _ (next?_eq_none_iff.2 rfl)]
    simp [ended]

end Lexer

/-- A text without the opening delimiter parses to itself. -/
theorem parse_of_untagged (untagged : ¬ delimiters.opening.toList <:+: text.toList) :
    parse delimiters text = .ok (.sequence (Node.literal text.toList)) := by
  have lexed : Lexing.ofText delimiters text.toList =
      ⟨if text.toList.isEmpty then [] else [.text text.toList], none⟩ :=
    Lexer.collect_of_untagged untagged
  have made : (Lexing.ofText delimiters text.toList).toNodes =
      .ok (Node.literal text.toList) := by
    rw [Lexing.toNodes_eq_ok_iff, lexed]
    refine ⟨rfl, ?_⟩
    cases text.toList with
    | nil => exact .nil
    | cons first rest =>
      have nests := Nests.text (first :: rest) Nests.nil
      rwa [List.append_nil] at nests
  unfold parse
  rw [made]

/-- One literal text always fits a block. -/
theorem Compiler.exists_text_start (name content : String) :
    ∃ compiled, (start name).text content = .ok compiled := by
  unfold text
  split
  · exact ⟨_, rfl⟩
  · have first : ((start name).builder.addConstant content).1 = 0 := by
      simp [start, CodeBuilder.start, CodeBuilder.addConstant, Pool.intern, Pool.empty]
    unfold constant operand
    dsimp only
    rw [first]
    exact ⟨_, rfl⟩

theorem Node.exists_toCode_literal (name : String) (characters : List Char) :
    ∃ code, (Node.sequence (Node.literal characters)).toCode name = .ok code := by
  unfold literal toCode
  rw [Compiler.node]
  split
  · rw [Compiler.nodes]
    exact ⟨_, rfl⟩
  · obtain ⟨compiled, made⟩ := Compiler.exists_text_start name (String.ofList characters)
    rw [Compiler.nodes, Compiler.node, made]
    dsimp only
    rw [Compiler.nodes]
    exact ⟨_, rfl⟩

namespace Run

variable {State : Type} [Host State] {limit remaining : Nat} {code : Code}

/-- The code of a literal text writes the text. -/
theorem execute_of_literal {name : String}
    (built : (Node.sequence (Node.literal text.toList)).toCode name = .ok code) :
    (execute limit remaining (Frame.start code) : Run State Unit) = write text := by
  obtain ⟨last, lays, halt⟩ := Node.laysBody_toCode built
  rw [Frame.start_eq_atOffset]
  rw [Code.LaysAll] at lays
  obtain ⟨stop, lays, ended⟩ := lays
  rw [Code.LaysAll] at ended
  rw [Code.Lays] at lays
  subst ended
  unfold Node.literal at lays
  split at lays
  · rename_i empty
    rw [Code.LaysAll] at lays
    have nothing : text = "" := by simpa using empty
    rw [nothing, write_empty, ← lays, execute_of_halt halt]
  · rename_i filled
    rw [Code.LaysAll] at lays
    obtain ⟨next, lays, ended⟩ := lays
    rw [Code.LaysAll] at ended
    rw [Code.Lays, String.ofList_toList] at lays
    subst ended
    rcases lays with ⟨nothing, -⟩ | ⟨index, known, holds⟩
    · rw [nothing] at filled
      exact absurd rfl filled
    · rw [execute_of_holds holds (by simp), perform_text known, execute_of_halt halt]
      rfl

end Run

/-- The host compiles whatever text it is asked to expand, and keeps nothing of it. -/
def Host.Compiling (State : Type) [Host State] : Prop :=
  ∀ (host : State) (text : String) (pair : Delimiters),
    Host.expand host text pair = (compileExpansion text pair, host)

theorem Partials.compiling : Host.Compiling Partials := fun _ _ _ => rfl

theorem DirectoryPartials.compiling : Host.Compiling DirectoryPartials := fun _ _ _ => rfl

/-- Whatever it is called, a text without the opening delimiter compiles to code that writes it. -/
theorem exists_code_of_untagged (untagged : ¬ delimiters.opening.toList <:+: text.toList)
    (name : String) :
    ∃ code, compile name delimiters text = .ok code ∧
      ∀ (State : Type) [Host State] (limit remaining : Nat),
        (Run.execute limit remaining (Frame.start code) : Run State Unit) = Run.write text := by
  obtain ⟨code, built⟩ := Node.exists_toCode_literal name text.toList
  refine ⟨code, ?_, ?_⟩
  · unfold compile
    rw [parse_of_untagged untagged]
    dsimp only
    rw [built]
    rfl
  · intro State _ limit remaining
    exact Run.execute_of_literal built

namespace Run

variable {State : Type} [Host State]

/-- Expands a text one level deeper, also if it cannot hold a tag. -/
def expandInFull (limit remaining : Nat) (text : String) (pair : Delimiters) : Run State Unit :=
  descend limit remaining (fun below template => execute limit below (Frame.start template))
    fun run => do
      let template ← ask fun host => Host.expand host text pair
      run template

/-- Expanding a text without the opening delimiter writes it. -/
theorem expandInFull_of_untagged (compiling : Host.Compiling State) (limit below : Nat)
    (untagged : ¬ delimiters.opening.toList <:+: text.toList) :
    (expandInFull limit (below + 1) text delimiters : Run State Unit) = write text := by
  obtain ⟨code, compiled, runs⟩ := exists_code_of_untagged untagged ""
  have answered : compileExpansion text delimiters = .ok code := by
    unfold compileExpansion
    rw [compiled]
    rfl
  have asked : (ask fun host : State => Host.expand host text delimiters) = pure code := by
    funext state
    unfold ask
    dsimp only
    rw [compiling, answered]
    rfl
  unfold expandInFull descend
  dsimp only
  rw [asked, pure_bind]
  exact runs State limit below

/-- As long as a level is left, a callable may just as well be expanded in full. -/
theorem expansion_eq_expandInFull (compiling : Host.Compiling State) (limit below : Nat)
    (entry : SectionEntry) (callable : Callable Value) :
    (expansion limit (below + 1) entry callable : Run State Unit) =
      expandInFull limit (below + 1) (callable.apply entry.raw).text entry.delimiters := by
  unfold expansion
  dsimp only
  split
  · rfl
  · rename_i shortcut
    rw [Bool.not_eq_true, Text.contains_eq_false_iff] at shortcut
    rw [expandInFull_of_untagged compiling limit below shortcut]

end Run

theorem Machine.renderInto_of_writes {State : Type} [Host State] {code : Code}
    (writes : ∀ limit remaining : Nat,
      (Run.execute limit remaining (Frame.start code) : Run State Unit) = Run.write text)
    (machine : Machine) (host : State) (output : Output) :
    machine.renderInto code host output = ⟨.ok (), machine, host, output.pushTrusted text⟩ := by
  unfold renderInto
  dsimp only
  rw [writes]
  rfl

/-- A template without an open tag renders to itself. -/
theorem Template.exists_ofSource_of_untagged {source : String}
    (untagged : ¬ Delimiters.standard.opening.toList <:+: source.toList) (name : String) :
    ∃ template, Template.ofSource name source = .ok template ∧
      ∀ (State : Type) [Host State] (options : Options) (data : Value) (host : State),
        template.renderWith options data host = (.ok source, host) := by
  obtain ⟨code, compiled, runs⟩ := exists_code_of_untagged untagged name
  refine ⟨⟨code⟩, ?_, ?_⟩
  · unfold ofSource
    rw [compiled]
    rfl
  · intro State _ options data host
    have rendered := Machine.renderInto_of_writes (runs State)
    unfold renderWith Machine.render
    dsimp only
    rw [rendered]
    simp [Output.pushTrusted, Output.empty, Except.map]

/-- A text in which the opening delimiter does not occur compiles under any delimiters, and running
its code in any state appends the text as it is and changes nothing else. So a section over a
callable, which writes such a text without expanding it, does what it would do if it expanded every
text, as long as a level is left for that; and a template without an open tag renders to itself. -/
theorem compile_untagged (untagged : ¬ delimiters.opening.toList <:+: text.toList)
    (State : Type) [Host State] :
    (∀ name, ∃ code, compile name delimiters text = .ok code ∧
      (∀ (limit remaining : Nat) (state : RunState State),
        Run.execute limit remaining (Frame.start code) state =
          (.ok (), { state with output := state.output.pushTrusted text })) ∧
      ∀ (machine : Machine) (host : State) (output : Output),
        machine.renderInto code host output = ⟨.ok (), machine, host, output.pushTrusted text⟩) ∧
    (Host.Compiling State → ∀ limit below : Nat,
      (Run.expandInFull limit (below + 1) text delimiters : Run State Unit) = Run.write text ∧
      ∀ (index : Nat) (code body : Code) (entry : SectionEntry),
        code.sections[index]? = some entry → code.children[entry.body]? = some body →
        (Run.perform limit (below + 1) code (.block index) : Run State Unit) = (do
          let value ← Run.popValue
          Run.table (Run.execute limit (below + 1) (Frame.start body))
            (fun callable => Run.expandInFull limit (below + 1) (callable.apply entry.raw).text
              entry.delimiters) value)) ∧
    ∀ source : String, ¬ Delimiters.standard.opening.toList <:+: source.toList →
      (∀ name, ∃ template, Template.ofSource name source = .ok template ∧
        ∀ (options : Options) (data : Value) (host : State),
          template.renderWith options data host = (.ok source, host)) ∧
      ∀ (data : Value) (partials : Partials),
        render source data partials = (.ok source, partials) := by
  refine ⟨?_, ?_, ?_⟩
  · intro name
    obtain ⟨code, compiled, runs⟩ := exists_code_of_untagged untagged name
    refine ⟨code, compiled, ?_, Machine.renderInto_of_writes (runs State)⟩
    intro limit remaining state
    rw [runs]
    rfl
  · intro compiling limit below
    refine ⟨Run.expandInFull_of_untagged compiling limit below untagged, ?_⟩
    intro index code body entry found child
    rw [Run.perform_block found child,
      funext (Run.expansion_eq_expandInFull compiling limit below entry)]
  · intro source plain
    constructor
    · intro name
      obtain ⟨template, compiled, renders⟩ := Template.exists_ofSource_of_untagged plain name
      exact ⟨template, compiled, renders State⟩
    · intro data partials
      obtain ⟨template, compiled, renders⟩ := Template.exists_ofSource_of_untagged plain ""
      unfold render
      rw [compiled]
      dsimp only
      rw [renders]
      rfl

/-- An opening delimiter that begins with a blank, half of it in the text and close delimiters
around; and braces that open nothing. -/
theorem compile_untagged_blank :
    let pair : Delimiters := ⟨" <%", "%>"⟩
    ¬ pair.opening.toList <:+: " <\n%> <\t%".toList ∧
      ¬ Delimiters.standard.opening.toList <:+: "\x7b braces \x7d\x7d\r\n".toList ∧
      Host.Compiling Partials ∧
      (∃ code, compile "" pair " <\n%> <\t%" = .ok code ∧
        (Machine.new ⟨.html, 0⟩).renderInto code Partials.empty ⟨"&", .html⟩ =
          ⟨.ok (), Machine.new ⟨.html, 0⟩, Partials.empty, ⟨"& <\n%> <\t%", .html⟩⟩) ∧
      (Run.expandInFull 1 1 " <\n%> <\t%" pair : Run Partials Unit) = Run.write " <\n%> <\t%" ∧
      render "\x7b braces \x7d\x7d\r\n" .null Partials.empty =
        (.ok "\x7b braces \x7d\x7d\r\n", Partials.empty) := by
  intro pair
  have absent : ¬ pair.opening.toList <:+: " <\n%> <\t%".toList :=
    Text.contains_eq_false_iff.1 (by cbv)
  have absentBraces :
      ¬ Delimiters.standard.opening.toList <:+: "\x7b braces \x7d\x7d\r\n".toList :=
    Text.contains_eq_false_iff.1 (by cbv)
  obtain ⟨compiles, expands, renders⟩ := compile_untagged absent Partials
  obtain ⟨code, compiled, -, into⟩ := compiles ""
  have appended : Output.pushTrusted ⟨"&", .html⟩ " <\n%> <\t%" =
      ⟨"& <\n%> <\t%", .html⟩ := by cbv
  refine ⟨absent, absentBraces, Partials.compiling, ⟨code, compiled, ?_⟩, ?_, ?_⟩
  · rw [into, appended]
  · exact (expands Partials.compiling 1 0).1
  · exact (renders _ absentBraces).2 .null Partials.empty

end Mustache
