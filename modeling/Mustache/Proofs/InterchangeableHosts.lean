import Mustache.DirectoryPartials
import Mustache.Proofs.Renderer
import Mustache.Proofs.Renderings

/-!
# Partials on disk and in memory

A directory of partials and a collection of the texts of its files are interchangeable. Both keep
code by name, and each fills its own table at other moments, but whatever either keeps is the code
of the same text. They differ only in what they call a partial that does not compile.
-/

namespace Mustache

set_option autoImplicit false

/-- The place that a stop is reported with. -/
def Stop.location? : Stop → Option Location
  | .error failure => failure.location
  | .fault _ => none

namespace DirectoryPartials

/-- What the directory has under a name: the text of a file, or no file. -/
inductive Reads (files : DirectoryPartials) (name : String) : Option String → Prop where
  | text {path source : String} (leads : files.pathFor name = .ok path)
    (found : files.disk.read? path = some (.ok source)) : Reads files name (some source)
  | missing {path : String} (leads : files.pathFor name = .ok path)
    (absent : files.disk.read? path = some (.error .notFound)) : Reads files name none

/-- The same cause, but that a partial is called by its path on the one side and by its name on the
other. -/
inductive Renames (files : DirectoryPartials) : RunCause → RunCause → Prop where
  | same (cause : RunCause) : Renames files cause cause
  | renamed {name path : String} (leads : files.pathFor name = .ok path) (error : CompileError) :
      Renames files (.inPartial (.file path) error) (.inPartial (.named name) error)

/-- Everything that looking up a name can do if there is a text or no file under it. -/
theorem lookUp_cases {files : DirectoryPartials} {name : String} {text? : Option String}
    (reads : files.Reads name text?) :
    (∃ compiled, files.compiled.find? name = some compiled ∧
      files.lookUp name = (.ok (some compiled), files)) ∨
    (files.compiled.find? name = none ∧ text? = none ∧ files.lookUp name = (.ok none, files)) ∨
    (∃ source path error, files.compiled.find? name = none ∧ text? = some source ∧
      files.pathFor name = .ok path ∧
      compile name Delimiters.standard source = .error error ∧
      files.lookUp name = (.error (RunError.ofCause (.inPartial (.file path) error)), files)) ∨
    ∃ source code, files.compiled.find? name = none ∧ text? = some source ∧
      compile name Delimiters.standard source = .ok code ∧
      files.lookUp name = (.ok (some ⟨code, files.compilations⟩), { files with
        compiled := files.compiled.insert name ⟨code, files.compilations⟩
        compilations := files.compilations + 1 }) := by
  unfold lookUp
  cases files.compiled.find? name with
  | some compiled => exact .inl ⟨compiled, rfl, rfl⟩
  | none =>
    right
    cases reads with
    | missing leads absent =>
      left
      refine ⟨rfl, rfl, ?_⟩
      simp only [leads, absent]
    | @text path source leads found =>
      right
      cases built : compile name Delimiters.standard source with
      | error error =>
        left
        refine ⟨source, path, error, rfl, rfl, leads, built, ?_⟩
        simp only [leads, found, load, compilePartial, built]
        rfl
      | ok code =>
        right
        refine ⟨source, code, rfl, rfl, built, ?_⟩
        simp only [leads, found, load, compilePartial, built]
        rfl

/-- A directory of partials beside a collection, both grown from those at the start, where each
keeps code only of the texts that the collection has. -/
structure Mirrors (files : DirectoryPartials) (memory : Partials) (now : DirectoryPartials)
    (other : Partials) : Prop where
  disk : now.disk = files.disk
  root : now.root = files.root
  extension : now.extension = files.extension
  ambient : now.ambient = files.ambient
  ambientOther : other.ambient = files.ambient
  sources : other.sources = memory.sources
  kept : ∀ (name : String) (compiled : Compiled), now.compiled.find? name = some compiled →
    templateOf name (memory.sources.find? name) = .ok (some compiled.code)
  current : other.Current

variable {files now : DirectoryPartials} {memory other : Partials} {name : String}

theorem Mirrors.pathFor (mirrors : Mirrors files memory now other) (name : String) :
    now.pathFor name = files.pathFor name := by
  unfold DirectoryPartials.pathFor
  rw [mirrors.root, mirrors.extension]

theorem Mirrors.reads (mirrors : Mirrors files memory now other) {text? : Option String}
    (reads : files.Reads name text?) : now.Reads name text? := by
  cases reads with
  | text leads found =>
    rw [← mirrors.pathFor] at leads
    rw [← mirrors.disk] at found
    exact .text leads found
  | missing leads absent =>
    rw [← mirrors.pathFor] at leads
    rw [← mirrors.disk] at absent
    exact .missing leads absent

/-- The directory answers what the text of the name compiles to. -/
theorem Mirrors.answer (mirrors : Mirrors files memory now other)
    (reads : files.Reads name (memory.sources.find? name)) :
    EndsAlike (Stop.Alike files.Renames) ((Host.partial? now name).1.mapError .error)
      ((templateOf name (memory.sources.find? name)).mapError .error) ∧
    Mirrors files memory (Host.partial? now name).2 other := by
  change EndsAlike _
      (((now.lookUp name).1.map fun compiled => compiled.map Compiled.code).mapError _) _ ∧
    Mirrors files memory (now.lookUp name).2 other
  rcases lookUp_cases (mirrors.reads reads) with ⟨compiled, found, done⟩ | ⟨-, absent, done⟩ |
      ⟨source, path, error, -, known, leads, broken, done⟩ | ⟨source, code, -, known, built, done⟩
  · rw [done, mirrors.kept name compiled found]
    exact ⟨.ok _, mirrors⟩
  · rw [done, absent]
    exact ⟨.ok _, mirrors⟩
  · rw [mirrors.pathFor] at leads
    rw [done, known, templateOf, compilePartial, broken]
    exact ⟨.error (.error none (.renamed leads error)), mirrors⟩
  · have compiles : templateOf name (some source) = .ok (some code) := by
      rw [templateOf, compilePartial, built]
      rfl
    rw [done, known, compiles]
    refine ⟨.ok _, { mirrors with kept := ?_ }⟩
    intro asked compiled found
    dsimp only at found
    rw [Table.find?_insert] at found
    split at found
    · rename_i same
      cases found
      rw [same, known, compiles]
    · exact mirrors.kept asked compiled found

/-- As long as the names that are asked for have the same in the directory as in the collection, the
two match. -/
theorem matches_mirrors (files : DirectoryPartials) (memory : Partials) :
    Host.Matches files.Renames
      (fun (watched : Watched DirectoryPartials) other => Mirrors files memory watched.host other)
      fun watched => ∀ name, .template name ∈ watched.asked →
        files.Reads name (memory.sources.find? name) where
  refl := .same
  partialBefore _ _ fit name known := fit name (List.mem_cons_of_mem _ known)
  partial? watched other name mirrors fit := by
    obtain ⟨ends, after⟩ := mirrors.answer (fit name List.mem_cons_self)
    obtain ⟨answer, current⟩ := mirrors.current.partial? name
    have grows := other.grows_partial? name
    rw [answer, mirrors.sources]
    exact ⟨ends, { after with
      ambientOther := grows.ambient.trans mirrors.ambientOther
      sources := grows.sources.trans mirrors.sources
      current }⟩
  expandBefore _ _ _ fit name known := fit name (List.mem_cons_of_mem _ known)
  expand watched other text pair mirrors _ := by
    refine ⟨?_, mirrors⟩
    change EndsAlike _ ((compileExpansion text pair).mapError _)
      ((compileExpansion text pair).mapError _)
    exact .refl .same _

/-- What is read for a name, if it is a text. -/
def text? (files : DirectoryPartials) (name : String) : Option String :=
  match files.pathFor name with
  | .error _ => none
  | .ok path => (files.disk.read? path).bind Except.toOption

/-- A collection of the texts of some names. -/
def inMemory (files : DirectoryPartials) (names : List String) : Partials :=
  names.foldr (fun name memory =>
    match files.text? name with
    | none => memory
    | some source => memory.insert name source) { Partials.empty with ambient := files.ambient }

theorem Reads.text?_eq {text? : Option String} (reads : files.Reads name text?) :
    files.text? name = text? := by
  unfold DirectoryPartials.text?
  cases reads with
  | text leads found => simp only [leads, found, Option.bind_some, Except.toOption]
  | missing leads absent => simp only [leads, absent, Option.bind_some, Except.toOption]

theorem inMemory_cons (files : DirectoryPartials) (name : String) (names : List String) :
    files.inMemory (name :: names) =
      match files.text? name with
      | none => files.inMemory names
      | some source => (files.inMemory names).insert name source := rfl

theorem find?_inMemory (files : DirectoryPartials) (names : List String) (name : String) :
    (files.inMemory names).sources.find? name =
      if name ∈ names then files.text? name else none := by
  induction names with
  | nil => rfl
  | cons first names ih =>
    rw [inMemory_cons]
    by_cases same : name = first
    · subst same
      rw [if_pos List.mem_cons_self]
      cases known : files.text? name with
      | none =>
        rw [known, ite_self] at ih
        exact ih
      | some source =>
        dsimp only [Partials.insert]
        rw [Table.find?_insert, if_pos rfl]
    · have others : (name ∈ first :: names) ↔ name ∈ names := by simp [same]
      rw [if_congr others rfl rfl, ← ih]
      cases files.text? first with
      | none => rfl
      | some source =>
        dsimp only [Partials.insert]
        rw [Table.find?_insert, if_neg same]

/-- A collection that nothing was compiled of yet, with the ambient frame of the directory, and
with what the directory has under the names that are asked for. -/
structure Copied (files : DirectoryPartials) (asked : List Question) (memory : Partials) :
    Prop where
  unused : ∀ name, memory.compiled.find? name = none
  ambient : memory.ambient = files.ambient
  sources : ∀ name, .template name ∈ asked → files.Reads name (memory.sources.find? name)

theorem unused_inMemory (files : DirectoryPartials) (names : List String) :
    (∀ name, (files.inMemory names).compiled.find? name = none) ∧
      (files.inMemory names).ambient = files.ambient := by
  induction names with
  | nil => exact ⟨fun _ => rfl, rfl⟩
  | cons first names ih =>
    rw [inMemory_cons]
    cases files.text? first with
    | none => exact ih
    | some source =>
      refine ⟨?_, ih.2⟩
      intro name
      dsimp only [Partials.insert]
      rw [Table.find?_erase, ih.1, ite_self]

/-- The names among some questions. -/
def names (asked : List Question) : List String :=
  asked.filterMap fun question =>
    match question with
    | .template name => some name
    | .expansion _ _ => none

theorem mem_names {asked : List Question} {name : String} :
    name ∈ names asked ↔ .template name ∈ asked := by
  unfold names
  rw [List.mem_filterMap]
  constructor
  · rintro ⟨question, known, same⟩
    cases question with
    | template other =>
      cases same
      exact known
    | expansion text pair => cases same
  · intro known
    exact ⟨_, known, rfl⟩

theorem exists_copied {asked : List Question} :
    (∃ memory, files.Copied asked memory) ↔
      ∀ name, .template name ∈ asked → ∃ text?, files.Reads name text? := by
  constructor
  · rintro ⟨memory, copied⟩ name known
    exact ⟨_, copied.sources name known⟩
  · intro readable
    obtain ⟨unused, ambient⟩ := files.unused_inMemory (names asked)
    refine ⟨files.inMemory (names asked), unused, ambient, ?_⟩
    intro name known
    obtain ⟨text?, reads⟩ := readable name known
    rw [find?_inMemory, if_pos (mem_names.2 known), reads.text?_eq]
    exact reads

theorem Copied.mirrors {asked : List Question} (copied : files.Copied asked memory)
    (unused : ∀ name, files.compiled.find? name = none) : Mirrors files memory files memory where
  disk := rfl
  root := rfl
  extension := rfl
  ambient := rfl
  ambientOther := copied.ambient
  sources := rfl
  kept name compiled found := by
    rw [unused] at found
    cases found
  current name compiled found := by
    rw [copied.unused] at found
    cases found

/-- Errors alike are reported with the same place, and in the same words but for what a partial is
called in front of them. -/
theorem reports_alike {reason other : Stop} (stops : Stop.Alike files.Renames reason other) :
    other.location? = reason.location? ∧
      (other.message = reason.message ∨ ∃ name path words, files.pathFor name = .ok path ∧
        reason.message = "in partial " ++ path ++ ": " ++ words ∧
        other.message = "in partial " ++ Text.quote name ++ ": " ++ words) := by
  cases stops with
  | fault defect => exact ⟨rfl, .inl rfl⟩
  | error location causes =>
    refine ⟨rfl, ?_⟩
    cases causes with
    | same cause => exact .inl rfl
    | renamed leads error => exact .inr ⟨_, _, error.message, leads, rfl, rfl⟩

open Rendering

/-- Rendering on a directory of partials is rendering on a collection of the texts of its files, for
any templates one after the other: the same outputs, and errors at the same places that differ in
what a partial is called. The files need to stay as they are, and under each name that is asked for
there has to be a text or no file at all, which is when there is such a collection. -/
theorem renderEach_interchangeable (files : DirectoryPartials)
    (unused : ∀ name, files.compiled.find? name = none) (renderings : List Rendering) :
    let asked := (renderEach renderings (⟨files, []⟩ : Watched DirectoryPartials)).2.asked
    ((∃ memory, files.Copied asked memory) ↔
      ∀ name, .template name ∈ asked → ∃ text?, files.Reads name text?) ∧
    (∀ memory, files.Copied asked memory →
      List.Forall₂ (EndsAlike (Stop.Alike files.Renames)) (renderEach renderings files).1
        (renderEach renderings memory).1) ∧
    ∀ reason other, Stop.Alike files.Renames reason other →
      other.location? = reason.location? ∧
        (other.message = reason.message ∨ ∃ name path words, files.pathFor name = .ok path ∧
          reason.message = "in partial " ++ path ++ ": " ++ words ∧
          other.message = "in partial " ++ Text.quote name ++ ": " ++ words) := by
  intro asked
  refine ⟨exists_copied, ?_, fun _ _ => reports_alike⟩
  intro memory copied
  obtain ⟨-, follows⟩ := renderEach_follows (matches_mirrors files memory)
    (fun watched other mirrors => mirrors.ambientOther.trans mirrors.ambient.symm) renderings
    ⟨files, []⟩
  obtain ⟨same, -⟩ := renderEach_watched renderings (⟨files, []⟩ : Watched DirectoryPartials)
  rw [← same]
  exact (follows memory (copied.mirrors unused) copied.sources).1

/-- A row that asks for a partial that is not there, and a partial that does not compile. -/
def shelf : DirectoryPartials :=
  let texts := [("v/r.h", "<\x7b\x7b.\x7d\x7d\x7b\x7b>n\x7d\x7d>"), ("v/b.h", "\x7b\x7b/x\x7d\x7d")]
  ofRoot ⟨fun path => some (match texts.lookup path with
    | none => .error .notFound
    | some source => .ok source)⟩ "v" "h"

def shelved : Partials :=
  Partials.ofPairs [("r", "<\x7b\x7b.\x7d\x7d\x7b\x7b>n\x7d\x7d>"), ("b", "\x7b\x7b/x\x7d\x7d")]

/-- The code of a template that is a tag for a partial. -/
def tagFor (name : String) : Template :=
  ⟨⟨"", #[32, 0, 1, 1], #[name, ""], #[], #[], #[], #[⟨1, 3⟩, ⟨1, 3⟩, ⟨1, 3⟩, ⟨1, 3⟩]⟩⟩

def visits : List Rendering :=
  [⟨tagFor "r", Options.standard, .string "a"⟩, ⟨tagFor "b", Options.standard, .null⟩,
    ⟨tagFor "r", ⟨.none, 2⟩, .string "&"⟩]

theorem asked_visits : (renderEach visits (⟨shelf, []⟩ : Watched DirectoryPartials)).2.asked =
    [.template "n", .template "r", .template "b", .template "n", .template "r"] := by
  cbv

theorem copied_shelved :
    shelf.Copied (renderEach visits (⟨shelf, []⟩ : Watched DirectoryPartials)).2.asked shelved where
  unused name := by
    simp [shelved, Partials.ofPairs, Partials.insert, Table.find?_erase, Partials.empty]
  ambient := rfl
  sources name known := by
    have row : shelf.Reads "r" (some "<\x7b\x7b.\x7d\x7d\x7b\x7b>n\x7d\x7d>") :=
      .text (by cbv) (by cbv)
    have broken : shelf.Reads "b" (some "\x7b\x7b/x\x7d\x7d") := .text (by cbv) (by cbv)
    have absent : shelf.Reads "n" none := .missing (by cbv) (by cbv)
    rw [asked_visits] at known
    have known : name = "r" ∨ name = "b" ∨ name = "n" := by
      simp at known
      tauto
    rcases known with rfl | rfl | rfl
    · exact row
    · exact broken
    · exact absent

theorem renderEach_interchangeable_shelf :
    let asked := (renderEach visits (⟨shelf, []⟩ : Watched DirectoryPartials)).2.asked
    (∀ name, shelf.compiled.find? name = none) ∧ shelf.Copied asked shelved ∧
      List.Forall₂ (EndsAlike (Stop.Alike shelf.Renames)) (renderEach visits shelf).1
        (renderEach visits shelved).1 ∧
      (renderEach visits shelved).1 = [.ok "<a>", .error (.error ⟨.inPartial (.named "b")
        (.parse ⟨.closingUnopened "x", Position.start, "\x7b\x7b/x\x7d\x7d"⟩), some ⟨1, 3⟩⟩),
        .ok "<&>"] := by
  have unused : ∀ name, shelf.compiled.find? name = none := fun _ => rfl
  obtain ⟨-, alike, -⟩ := renderEach_interchangeable shelf unused visits
  exact ⟨unused, copied_shelved, alike shelved copied_shelved, by cbv⟩

end DirectoryPartials

end Mustache
