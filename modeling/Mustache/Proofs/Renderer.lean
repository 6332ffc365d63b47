import Mathlib.Data.List.Induction
import Mustache.Partials
import Mustache.Proofs.HostAnswers
import Mustache.Proofs.HostsInStep

/-!
# Renders that share a machine and partials

A collection of partials keeps the code of a name for as long as its source stays, and a machine
keeps its context and stack. Neither can be seen in an answer: the code at hand is always the code
of the latest source, and a run never asks a host for more than that.
-/

namespace Mustache

set_option autoImplicit false

/-- What a source compiles to as the partial of a name; there may be no source. -/
def templateOf (name : String) : Option String → Except RunError (Option Code)
  | none => .ok none
  | some source => (compilePartial name source (.named name)).map some

theorem exists_of_compilePartial {name source : String} {origin : PartialOrigin} {code : Code}
    (built : compilePartial name source origin = .ok code) :
    ∃ node, parse Delimiters.standard source = .ok node ∧ node.Generates code :=
  exists_of_compile (ok_of_mapError built)

theorem exists_of_templateOf {name : String} {source? : Option String} {code : Code}
    (found : templateOf name source? = .ok (some code)) :
    ∃ source node, source? = some source ∧ parse Delimiters.standard source = .ok node ∧
      node.Generates code := by
  cases source? with
  | none => cases found
  | some source =>
    rw [templateOf] at found
    cases built : compilePartial name source (.named name) with
    | error error =>
      rw [built] at found
      cases found
    | ok other =>
      rw [built] at found
      cases found
      obtain ⟨node, parsed, generates⟩ := exists_of_compilePartial built
      exact ⟨source, node, rfl, parsed, generates⟩

namespace Partials

variable {partials : Partials}

/-- Everything that looking up a name can do. -/
theorem lookUp_cases (partials : Partials) (name : String) :
    (∃ compiled, partials.compiled.find? name = some compiled ∧
      partials.lookUp name = (.ok (some compiled), partials)) ∨
    (partials.compiled.find? name = none ∧ partials.sources.find? name = none ∧
      partials.lookUp name = (.ok none, partials)) ∨
    (∃ source error, partials.compiled.find? name = none ∧
      partials.sources.find? name = some source ∧
      compilePartial name source (.named name) = .error error ∧
      partials.lookUp name = (.error error, partials)) ∨
    ∃ source code, partials.compiled.find? name = none ∧
      partials.sources.find? name = some source ∧
      compilePartial name source (.named name) = .ok code ∧
      partials.lookUp name = (.ok (some ⟨code, partials.compilations⟩), { partials with
        compiled := partials.compiled.insert name ⟨code, partials.compilations⟩
        compilations := partials.compilations + 1 }) := by
  unfold lookUp
  cases partials.compiled.find? name with
  | some compiled => exact .inl ⟨compiled, rfl, rfl⟩
  | none =>
    cases partials.sources.find? name with
    | none => exact .inr (.inl ⟨rfl, rfl, rfl⟩)
    | some source =>
      cases built : compilePartial name source (.named name) with
      | error error =>
        refine .inr (.inr (.inl ⟨source, error, rfl, rfl, built, ?_⟩))
        simp only [built]
      | ok code =>
        refine .inr (.inr (.inr ⟨source, code, rfl, rfl, built, ?_⟩))
        simp only [built]

/-- The code at hand is the code of the present sources. -/
def Current (partials : Partials) : Prop :=
  ∀ (name : String) (compiled : Compiled), partials.compiled.find? name = some compiled →
    templateOf name (partials.sources.find? name) = .ok (some compiled.code)

/-- Partials with nothing changed but for code kept of templates that were asked for. -/
structure Grows (asked : List Question) (before after : Partials) : Prop where
  sources : after.sources = before.sources
  ambient : after.ambient = before.ambient
  kept : ∀ (name : String) (compiled : Compiled), before.compiled.find? name = some compiled →
    after.compiled.find? name = some compiled
  untouched : ∀ name : String, .template name ∉ asked →
    after.compiled.find? name = before.compiled.find? name

theorem Grows.refl (asked : List Question) (partials : Partials) : Grows asked partials partials :=
  ⟨rfl, rfl, fun _ _ found => found, fun _ _ => rfl⟩

theorem Grows.trans {asked later : List Question} {before middle after : Partials}
    (first : Grows asked before middle) (second : Grows later middle after) :
    Grows (later ++ asked) before after where
  sources := second.sources.trans first.sources
  ambient := second.ambient.trans first.ambient
  kept name compiled found := second.kept name compiled (first.kept name compiled found)
  untouched name fresh := by
    rw [List.mem_append, not_or] at fresh
    exact (second.untouched name fresh.1).trans (first.untouched name fresh.2)

theorem grows_partial? (partials : Partials) (name : String) :
    Grows [.template name] partials (Host.partial? partials name).2 := by
  change Grows _ partials (partials.lookUp name).2
  rcases partials.lookUp_cases name with ⟨compiled, -, done⟩ | ⟨-, -, done⟩ |
      ⟨source, error, -, -, -, done⟩ | ⟨source, code, missed, -, -, done⟩
  · rw [done]
    exact Grows.refl _ _
  · rw [done]
    exact Grows.refl _ _
  · rw [done]
    exact Grows.refl _ _
  · rw [done]
    refine ⟨rfl, rfl, ?_, ?_⟩
    · intro other compiled found
      have distinct : other ≠ name := by
        intro same
        rw [same, missed] at found
        cases found
      dsimp only
      rw [Table.find?_insert, if_neg distinct]
      exact found
    · intro other unasked
      have distinct : other ≠ name := by
        intro same
        apply unasked
        rw [same]
        exact List.mem_singleton_self _
      dsimp only
      rw [Table.find?_insert, if_neg distinct]

/-- Of current partials the answer is what the source compiles to now. -/
theorem Current.partial? (current : partials.Current) (name : String) :
    (Host.partial? partials name).1 = templateOf name (partials.sources.find? name) ∧
      (Host.partial? partials name).2.Current := by
  change (partials.lookUp name).1.map (fun compiled => compiled.map Compiled.code) = _ ∧
    (partials.lookUp name).2.Current
  rcases partials.lookUp_cases name with ⟨compiled, found, done⟩ | ⟨-, unknown, done⟩ |
      ⟨source, error, -, known, broken, done⟩ | ⟨source, code, -, known, built, done⟩
  · rw [done, current name compiled found]
    exact ⟨rfl, current⟩
  · rw [done, unknown]
    exact ⟨rfl, current⟩
  · rw [done, known, templateOf, broken]
    exact ⟨rfl, current⟩
  · rw [done]
    refine ⟨?_, ?_⟩
    · rw [known, templateOf, built]
      rfl
    · intro other compiled found
      dsimp only at found ⊢
      rw [Table.find?_insert] at found
      split at found
      · rename_i same
        cases found
        rw [same, known, templateOf, built]
        rfl
      · exact current other compiled found

/-- A template that does not compile is not kept, so the next time it is compiled again. -/
theorem partial?_of_error {name : String} {error : RunError}
    (failed : (Host.partial? partials name).1 = .error error) :
    (Host.partial? partials name).2 = partials ∧ partials.compiled.find? name = none := by
  change (partials.lookUp name).1.map (fun compiled => compiled.map Compiled.code) = _ at failed
  change (partials.lookUp name).2 = partials ∧ _
  rcases partials.lookUp_cases name with ⟨compiled, -, done⟩ | ⟨-, -, done⟩ |
      ⟨source, reason, missed, -, -, done⟩ | ⟨source, code, -, -, -, done⟩
  · rw [done] at failed
    cases failed
  · rw [done] at failed
    cases failed
  · rw [done]
    exact ⟨rfl, missed⟩
  · rw [done] at failed
    cases failed

/-- Current partials with the same sources and the same ambient frame. -/
structure Alike (first second : Partials) : Prop where
  sources : ∀ name, second.sources.find? name = first.sources.find? name
  ambient : second.ambient = first.ambient
  current : first.Current
  currentOther : second.Current

theorem inStep_alike : Host.InStep Alike where
  partial? first second name alike := by
    have answers := alike.current.partial? name
    have others := alike.currentOther.partial? name
    have grows := first.grows_partial? name
    have growsOther := second.grows_partial? name
    refine ⟨?_, ?_, ?_, answers.2, others.2⟩
    · rw [answers.1, others.1, alike.sources]
    · intro asked
      rw [grows.sources, growsOther.sources, alike.sources]
    · rw [grows.ambient, growsOther.ambient, alike.ambient]
  expand first second text pair alike := ⟨rfl, alike⟩

/-- Watched partials beside the partials themselves, both grown from the same ones. -/
def Traced (before : Partials) (partials : Partials) (watched : Watched Partials) : Prop :=
  watched.host = partials ∧ before.Grows watched.asked partials ∧ partials.Current

theorem inStep_traced (before : Partials) : Host.InStep before.Traced where
  partial? partials watched name traced := by
    obtain ⟨same, grown, current⟩ := traced
    obtain ⟨host, asked⟩ := watched
    subst same
    exact ⟨rfl, rfl, grown.trans (host.grows_partial? name), (current.partial? name).2⟩
  expand partials watched text pair traced := by
    obtain ⟨same, grown, current⟩ := traced
    obtain ⟨host, asked⟩ := watched
    subst same
    exact ⟨rfl, rfl, grown.trans (Grows.refl [.expansion text pair] host), current⟩

end Partials

/-- A machine and a collection of partials that are used for many renders. -/
structure Renderer where
  machine : Machine
  partials : Partials

inductive Operation where
  | insert (name source : String)
  | setAmbient (ambient : Value)
  /-- Asks the partials for a template. -/
  | template (name : String)
  /-- Asks the partials to compile the output of a callable. -/
  | compile (text : String) (pair : Delimiters)
  | render (code : Code) (data : Value)

inductive Operation.Result where
  | nothing
  | template (found : Except RunError (Option Code))
  | compiled (code : Except RunError Code)
  | rendered (output : Except Stop String)

namespace Operation

def source? (name : String) : Operation → Option String
  | insert other source => if name = other then some source else none
  | _ => none

def ambient? : Operation → Option Value
  | setAmbient ambient => some ambient
  | _ => none

end Operation

/-- The source that a name was given last. -/
def latestSource? (history : List Operation) (name : String) : Option String :=
  history.reverse.findSome? (Operation.source? name)

def latestAmbient? (history : List Operation) : Option Value :=
  history.reverse.findSome? Operation.ambient?

namespace Renderer

def new (options : Options) : Renderer := ⟨Machine.new options, Partials.empty⟩

def perform (renderer : Renderer) : Operation → Operation.Result × Renderer
  | .insert name source =>
    (.nothing, { renderer with partials := renderer.partials.insert name source })
  | .setAmbient ambient =>
    (.nothing, { renderer with partials := renderer.partials.setAmbient ambient })
  | .template name =>
    let answer := Host.partial? renderer.partials name
    (.template answer.1, { renderer with partials := answer.2 })
  | .compile text pair =>
    let answer := Host.expand renderer.partials text pair
    (.compiled answer.1, { renderer with partials := answer.2 })
  | .render code data =>
    let finished := renderer.machine.render code data renderer.partials
    (.rendered (finished.outcome.map fun _ => finished.output.text),
      ⟨finished.machine, finished.host⟩)

/-- The renderer after some operations, the first one first. -/
def after (options : Options) (history : List Operation) : Renderer :=
  history.foldl (fun renderer operation => (renderer.perform operation).2) (new options)

end Renderer

namespace Partials

/-- Partials with the latest sources and the latest ambient frame, whatever code they keep. -/
structure Holds (history : List Operation) (partials : Partials) : Prop where
  sources : ∀ name, partials.sources.find? name = latestSource? history name
  ambient : partials.ambient = latestAmbient? history

/-- Partials with the latest sources and the latest ambient frame, and no code yet. -/
structure Fresh (history : List Operation) (partials : Partials) : Prop
    extends Holds history partials where
  compiled : ∀ name, partials.compiled.find? name = none

variable {history : List Operation} {partials other : Partials} {operation : Operation}

theorem Fresh.current (fresh : partials.Fresh history) : partials.Current := by
  intro name compiled found
  rw [fresh.compiled name] at found
  cases found

theorem Holds.alike (first : partials.Holds history) (second : other.Holds history)
    (current : partials.Current) (currentOther : other.Current) : Alike partials other where
  sources name := (second.sources name).trans (first.sources name).symm
  ambient := second.ambient.trans first.ambient.symm
  current := current
  currentOther := currentOther

end Partials

theorem latestSource?_append (history : List Operation) (operation : Operation) (name : String) :
    latestSource? (history ++ [operation]) name =
      (operation.source? name).or (latestSource? history name) := by
  unfold latestSource?
  rw [List.reverse_append, List.reverse_singleton, List.singleton_append, List.findSome?_cons]
  cases operation.source? name <;> rfl

theorem latestAmbient?_append (history : List Operation) (operation : Operation) :
    latestAmbient? (history ++ [operation]) = operation.ambient?.or (latestAmbient? history) := by
  unfold latestAmbient?
  rw [List.reverse_append, List.reverse_singleton, List.singleton_append, List.findSome?_cons]
  cases operation.ambient? <;> rfl

namespace Partials

variable {history : List Operation} {partials : Partials}

theorem holds_empty : empty.Holds [] := ⟨fun _ => rfl, rfl⟩

theorem Holds.insert (holds : partials.Holds history) (name source : String) :
    (partials.insert name source).Holds (history ++ [.insert name source]) := by
  constructor
  · intro other
    rw [latestSource?_append]
    change (partials.sources.insert name source).find? other = _
    rw [Table.find?_insert, holds.sources]
    by_cases same : other = name
    · simp [Operation.source?, same]
    · simp [Operation.source?, same]
  · rw [latestAmbient?_append]
    exact holds.ambient

theorem Holds.setAmbient (holds : partials.Holds history) (ambient : Value) :
    (partials.setAmbient ambient).Holds (history ++ [.setAmbient ambient]) := by
  constructor
  · intro other
    rw [latestSource?_append]
    exact holds.sources other
  · rw [latestAmbient?_append]
    rfl

/-- Growing partials hold what they held, if the operation is none that sets anything. -/
theorem Holds.grows {asked : List Question} {after : Partials} {operation : Operation}
    (holds : partials.Holds history) (grows : Grows asked partials after)
    (unnamed : ∀ name, operation.source? name = none) (unset : operation.ambient? = none) :
    after.Holds (history ++ [operation]) := by
  constructor
  · intro name
    rw [latestSource?_append, unnamed, grows.sources]
    exact holds.sources name
  · rw [latestAmbient?_append, unset, grows.ambient]
    exact holds.ambient

/-- A new source drops the code of its name and no other. -/
theorem Current.insert (current : partials.Current) (name source : String) :
    (partials.insert name source).Current := by
  intro other compiled found
  change (partials.compiled.erase name).find? other = some compiled at found
  change templateOf other ((partials.sources.insert name source).find? other) = _
  rw [Table.find?_erase] at found
  rw [Table.find?_insert]
  split at found
  · cases found
  · rename_i distinct
    rw [if_neg distinct]
    exact current other compiled found

/-- Partials that are given a history without being asked anything. -/
def ofHistory (history : List Operation) : Partials :=
  history.foldl (fun partials operation =>
    match operation with
    | .insert name source => partials.insert name source
    | .setAmbient ambient => partials.setAmbient ambient
    | _ => partials) empty

theorem fresh_ofHistory (history : List Operation) : (ofHistory history).Fresh history := by
  induction history using List.reverseRecOn with
  | nil => exact { holds_empty with compiled := fun _ => rfl }
  | append_singleton history operation ih =>
    have next : ofHistory (history ++ [operation]) = (match operation with
        | .insert name source => (ofHistory history).insert name source
        | .setAmbient ambient => (ofHistory history).setAmbient ambient
        | _ => ofHistory history) := List.foldl_append
    rw [next]
    have same := Grows.refl [] (ofHistory history)
    cases operation with
    | insert name source =>
      refine { ih.toHolds.insert name source with compiled := ?_ }
      intro other
      change ((ofHistory history).compiled.erase name).find? other = none
      rw [Table.find?_erase, ih.compiled, ite_self]
    | setAmbient ambient => exact { ih.toHolds.setAmbient ambient with compiled := ih.compiled }
    | template name =>
      exact { ih.toHolds.grows same (fun _ => rfl) rfl with compiled := ih.compiled }
    | compile text pair =>
      exact { ih.toHolds.grows same (fun _ => rfl) rfl with compiled := ih.compiled }
    | render code data =>
      exact { ih.toHolds.grows same (fun _ => rfl) rfl with compiled := ih.compiled }

end Partials

namespace Machine

/-- The questions that a render asks some partials. -/
def asks (machine : Machine) (code : Code) (data : Value) (partials : Partials) : List Question :=
  (machine.render code data (⟨partials, []⟩ : Watched Partials)).host.asked

theorem grows_render (machine : Machine) (code : Code) (data : Value) {partials : Partials}
    (current : partials.Current) :
    partials.Grows (machine.asks code data partials) (machine.render code data partials).host ∧
      (machine.render code data partials).host.Current := by
  have traced : partials.Traced partials ⟨partials, []⟩ :=
    ⟨rfl, Partials.Grows.refl [] partials, current⟩
  have agree := render_agrees (Partials.inStep_traced partials) traced rfl machine machine rfl code
    data
  exact agree.hosts.2

end Machine

namespace Renderer

variable {history : List Operation} {renderer : Renderer}

/-- One operation keeps partials that hold the history so far, with current code. -/
theorem holds_perform (holds : renderer.partials.Holds history)
    (current : renderer.partials.Current) (operation : Operation) :
    (renderer.perform operation).2.partials.Holds (history ++ [operation]) ∧
      (renderer.perform operation).2.partials.Current := by
  cases operation with
  | insert name source => exact ⟨holds.insert name source, current.insert name source⟩
  | setAmbient ambient => exact ⟨holds.setAmbient ambient, current⟩
  | template name =>
    have grows := renderer.partials.grows_partial? name
    exact ⟨holds.grows grows (fun _ => rfl) rfl, (current.partial? name).2⟩
  | compile text pair =>
    have grows := Partials.Grows.refl [] renderer.partials
    exact ⟨holds.grows grows (fun _ => rfl) rfl, current⟩
  | render code data =>
    obtain ⟨grows, rendered⟩ := renderer.machine.grows_render code data current
    exact ⟨holds.grows grows (fun _ => rfl) rfl, rendered⟩

theorem options_perform (renderer : Renderer) (operation : Operation) :
    (renderer.perform operation).2.machine.options = renderer.machine.options := by
  cases operation <;> rfl

theorem after_append (options : Options) (history : List Operation) (operation : Operation) :
    after options (history ++ [operation]) =
      ((after options history).perform operation).2 := List.foldl_append

theorem holds_after (options : Options) (history : List Operation) :
    (after options history).partials.Holds history ∧
      (after options history).partials.Current ∧
      (after options history).machine.options = options := by
  induction history using List.reverseRecOn with
  | nil => exact ⟨Partials.holds_empty, (Partials.fresh_ofHistory []).current, rfl⟩
  | append_singleton history operation ih =>
    obtain ⟨holds, current, kept⟩ := ih
    obtain ⟨holdsNext, currentNext⟩ := holds_perform holds current operation
    rw [after_append]
    exact ⟨holdsNext, currentNext, (options_perform _ operation).trans kept⟩

/-- Renderers with the same options and partials alike give the same answers. -/
theorem perform_alike (renderer other : Renderer) (alike : renderer.partials.Alike other.partials)
    (options : other.machine.options = renderer.machine.options) (operation : Operation) :
    (other.perform operation).1 = (renderer.perform operation).1 := by
  cases operation with
  | insert name source => rfl
  | setAmbient ambient => rfl
  | template name =>
    exact congrArg Operation.Result.template
      (Partials.inStep_alike.partial? _ _ name alike).1
  | compile text pair => rfl
  | render code data =>
    have agree := Machine.render_agrees Partials.inStep_alike alike alike.ambient renderer.machine
      other.machine options code data
    unfold perform
    dsimp only
    rw [agree.outcome, agree.output]

end Renderer

/-- Nothing that a renderer answers depends on what was done with it before, but for the latest
sources and the latest ambient frame. After any operations, failing ones included, the next one
answers what it would answer on a new machine with partials that hold these and no code. The code at
hand is the code of the latest sources; a template that does not compile is not kept; and asking and
rendering change nothing but the code of the templates asked for, which is kept once it is there. -/
theorem perform_after (options : Options) (history : List Operation) :
    let renderer := Renderer.after options history
    (∃ partials : Partials, partials.Fresh history) ∧
    (∀ partials : Partials, partials.Fresh history → ∀ operation : Operation,
      (renderer.perform operation).1 =
        (Renderer.perform ⟨Machine.new options, partials⟩ operation).1) ∧
    (∀ (name : String) (compiled : Compiled),
      renderer.partials.compiled.find? name = some compiled →
        templateOf name (latestSource? history name) = .ok (some compiled.code)) ∧
    (∀ name : String,
      (renderer.perform (.template name)).1 =
        .template (templateOf name (latestSource? history name))) ∧
    (∀ (name : String) (error : RunError),
      templateOf name (latestSource? history name) = .error error →
        renderer.partials.compiled.find? name = none ∧
          (renderer.perform (.template name)).2 = renderer) ∧
    (∀ name : String,
      renderer.partials.Grows [.template name]
        (renderer.perform (.template name)).2.partials) ∧
    ∀ (code : Code) (data : Value),
      renderer.partials.Grows (renderer.machine.asks code data renderer.partials)
        (renderer.perform (.render code data)).2.partials := by
  intro renderer
  obtain ⟨holds, current, kept⟩ := Renderer.holds_after options history
  have answered (name : String) : (Host.partial? renderer.partials name).1 =
      templateOf name (latestSource? history name) := by
    rw [(current.partial? name).1, holds.sources]
  refine ⟨⟨_, Partials.fresh_ofHistory history⟩, ?_, ?_, ?_, ?_, ?_, ?_⟩
  · intro partials fresh operation
    have alike := fresh.toHolds.alike holds fresh.current current
    exact Renderer.perform_alike ⟨Machine.new options, partials⟩ renderer alike kept operation
  · intro name compiled found
    rw [← holds.sources]
    exact current name compiled found
  · intro name
    exact congrArg Operation.Result.template (answered name)
  · intro name error failed
    obtain ⟨unchanged, missed⟩ := Partials.partial?_of_error ((answered name).trans failed)
    refine ⟨missed, ?_⟩
    change (⟨renderer.machine, (Host.partial? renderer.partials name).2⟩ : Renderer) = renderer
    rw [unchanged]
  · intro name
    exact renderer.partials.grows_partial? name
  · intro code data
    exact (renderer.machine.grows_render code data current).1

namespace Renderer

/-- The code of a template that is a tag for a partial. -/
def included : Code := ⟨"", #[32, 0, 1, 1], #["p", ""], #[], #[], #[], #[]⟩

def replacing : List Operation :=
  [.insert "p" "A", .render included .null, .insert "q" "\x7b\x7b/x\x7d\x7d", .template "q",
    .insert "p" "B", .template "p"]

theorem fresh_replaced :
    (Partials.ofPairs [("p", "B"), ("q", "\x7b\x7b/x\x7d\x7d")]).Fresh replacing := by
  refine ⟨⟨?_, rfl⟩, ?_⟩
  · intro name
    simp only [Partials.ofPairs, List.foldl, Partials.insert, Table.find?_insert, Partials.empty,
      Table.find?_empty, latestSource?, replacing, List.reverse, List.reverseAux,
      List.findSome?, Operation.source?]
    grind
  · intro name
    simp [Partials.ofPairs, Partials.insert, Table.find?_erase, Partials.empty]

end Renderer

theorem perform_after_replaced :
    let renderer := Renderer.after Options.standard Renderer.replacing
    (renderer.perform (.render Renderer.included .null)).1 = .rendered (.ok "B") ∧
      (∃ code, templateOf "p" (some "B") = .ok (some code)) ∧
      (renderer.perform (.template "q")).2 = renderer := by
  intro renderer
  obtain ⟨-, answers, current, -, failing, -⟩ :=
    perform_after Options.standard Renderer.replacing
  have onFresh := answers _ Renderer.fresh_replaced (.render Renderer.included .null)
  refine ⟨?_, ?_, ?_⟩
  · rw [onFresh]
    cbv
  · have kept : renderer.partials.compiled.find? "p" =
        some ⟨⟨"p", #[10, 0, 1], #["B"], #[], #[], #[], #[⟨0, 0⟩, ⟨0, 0⟩, ⟨0, 0⟩]⟩, 1⟩ := by cbv
    exact ⟨_, current "p" _ kept⟩
  · have broken : templateOf "q" (latestSource? Renderer.replacing "q") = .error
        (RunError.ofCause (.inPartial (.named "q") (.parse
          ⟨.closingUnopened "x", Position.start, "\x7b\x7b/x\x7d\x7d"⟩))) := by cbv
    exact (failing "q" _ broken).2

end Mustache
