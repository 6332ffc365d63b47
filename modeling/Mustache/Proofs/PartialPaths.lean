import Mathlib
import Mustache.DirectoryPartials
import Mustache.Proofs.FirstOccurrence

/-!
# Where partial names lead

A path is followed component by component: from its root if it has one, up at two dots, and past
texts that name nothing. A name that is not refused leads from the directory of partials to a place
below it, also with the extension behind it, which can turn the last text of the name into two dots.
-/

namespace Mustache

set_option autoImplicit false

namespace FilePath

/-- What a component of a path asks for. -/
inductive Component where
  /-- To begin at the root of the file system. -/
  | root
  | current
  | parent
  | name (text : List Char)
deriving DecidableEq

def Component.isName : Component → Bool
  | .name _ => true
  | _ => false

/-- The component of a text between slashes, which must name something. -/
def Component.of (text : List Char) : Component :=
  if text = ['.', '.'] then .parent else .name text

/-- The components of texts between slashes, of which some name nothing. -/
def named (texts : List (List Char)) : List Component :=
  (texts.filter fun text => !isIdle text).map Component.of

/-- Where a path begins if it is not where the one who follows it stands. -/
def lead (path : List Char) : List Component :=
  if isAbsolute path then [.root]
  else if (split path).head? = some ['.'] then [.current]
  else []

/-- The components of a path. An empty text is none, and a dot is one only at the front. -/
def components (path : List Char) : List Component := lead path ++ named (split path)

/-- Where components lead from a directory, by their names alone; nothing if they leave it. The
directories entered so far are `inside`, the last one first. -/
def descend (inside : List (List Char)) : List Component → Option (List (List Char))
  | [] => some inside
  | .root :: _ => none
  | .current :: rest => descend inside rest
  | .parent :: rest =>
    match inside with
    | [] => none
    | _ :: outside => descend outside rest
  | .name text :: rest => descend (text :: inside) rest

/-- A text that stands between slashes, or between a slash and an end. -/
def HasPart (part path : List Char) : Prop :=
  ∃ before after, path = before ++ part ++ after ∧
    (before = [] ∨ before.getLast? = some '/') ∧ (after = [] ∨ after.head? = some '/')

/-- A path that is empty, starts at the root of the file system or with a dot component, or leads
up somewhere. -/
def LeadsOut (path : List Char) : Prop :=
  path = [] ∨ path.head? = some '/' ∨ HasPart ['.', '.'] path ∨ path = ['.'] ∨ ['.', '/'] <+: path

variable {path part rest : List Char}

theorem split_single (single : '/' ∉ part) : split part = [part] := by
  induction part with
  | nil => rfl
  | cons character part ih =>
    rw [List.mem_cons, not_or] at single
    rw [split, if_neg (Ne.symm single.1), ih single.2]

theorem split_broken (single : '/' ∉ part) (rest : List Char) :
    split (part ++ '/' :: rest) = part :: split rest := by
  induction part with
  | nil => simp [split]
  | cons character part ih =>
    rw [List.mem_cons, not_or] at single
    rw [List.cons_append, split, if_neg (Ne.symm single.1), ih single.2]

/-- A slash separates whatever stands on its sides. -/
theorem split_append (first rest : List Char) :
    split (first ++ '/' :: rest) = split first ++ split rest := by
  induction first using Text.byBreaks '/' with
  | last part single => rw [split_broken single, split_single single, List.singleton_append]
  | broken part behind single ih =>
    rw [List.append_assoc, List.cons_append, split_broken single, split_broken single, ih,
      List.cons_append]

/-- Without a slash, more text belongs to the last part. -/
theorem split_append_single (path : List Char) (single : '/' ∉ part) :
    ∃ front last, split path = front ++ [last] ∧ split (path ++ part) = front ++ [last ++ part] := by
  induction path using Text.byBreaks '/' with
  | last path whole =>
    exact ⟨[], path, split_single whole, split_single (by simp [whole, single])⟩
  | broken first behind whole ih =>
    obtain ⟨front, last, before, after⟩ := ih
    refine ⟨first :: front, last, ?_, ?_⟩
    · rw [split_broken whole, before, List.cons_append]
    · rw [List.append_assoc, List.cons_append, split_broken whole, after, List.cons_append]

theorem split_ne_nil (path : List Char) : split path ≠ [] := by
  obtain ⟨front, last, same, -⟩ := split_append_single path (by simp : '/' ∉ ([] : List Char))
  simp [same]

theorem mem_split_iff (single : '/' ∉ part) : part ∈ split path ↔ HasPart part path := by
  constructor
  · intro inside
    induction path using Text.byBreaks '/' with
    | last path whole =>
      rw [split_single whole, List.mem_singleton] at inside
      exact ⟨[], [], by simp [inside], .inl rfl, .inl rfl⟩
    | broken first behind whole ih =>
      rw [split_broken whole, List.mem_cons] at inside
      rcases inside with rfl | inside
      · exact ⟨[], '/' :: behind, by simp, .inl rfl, .inr rfl⟩
      · obtain ⟨before, after, same, begins, ends⟩ := ih inside
        refine ⟨first ++ '/' :: before, after, by simp [same], .inr ?_, ends⟩
        rcases begins with empty | slash
        · simp [empty]
        · have filled : before ≠ [] := by
            intro empty
            rw [empty] at slash
            cases slash
          rw [List.getLast?_append_of_ne_nil _ (List.cons_ne_nil _ _),
            List.getLast?_cons_of_ne_nil filled, slash]
  · rintro ⟨before, after, rfl, begins, ends⟩
    have front : ∃ texts, split (before ++ (part ++ after)) = texts ++ split (part ++ after) := by
      rcases begins with empty | slash
      · exact ⟨[], by simp [empty]⟩
      · obtain ⟨path, same⟩ := List.getLast?_eq_some_iff.1 slash
        refine ⟨split path, ?_⟩
        rw [same, List.append_assoc, List.singleton_append, split_append]
    have back : ∃ texts, split (part ++ after) = part :: texts := by
      cases after with
      | nil => exact ⟨[], by rw [List.append_nil, split_single single]⟩
      | cons head after =>
        rcases ends with empty | slash
        · cases empty
        · cases slash
          exact ⟨split after, split_broken single after⟩
    obtain ⟨texts, front⟩ := front
    obtain ⟨others, back⟩ := back
    rw [List.append_assoc, front, back]
    simp

theorem named_append (first second : List (List Char)) :
    named (first ++ second) = named first ++ named second := by
  simp [named]

theorem lead_append (filled : path ≠ []) (rest : List Char) :
    lead (path ++ '/' :: rest) = lead path := by
  have first : (split path ++ split rest).head? = (split path).head? := by
    rw [List.head?_append_of_ne_nil _ (split_ne_nil path)]
  unfold lead
  rw [split_append, first]
  cases path with
  | nil => exact absurd rfl filled
  | cons character path => rfl

theorem components_concat (filled : path ≠ []) : components (path ++ ['/']) = components path := by
  unfold components
  rw [lead_append filled, split_append, named_append]
  exact congrArg (lead path ++ ·) (List.append_nil _)

/-- The components behind a slash follow those up to it. -/
theorem components_append (path rest : List Char) :
    components (path ++ '/' :: rest) = components (path ++ ['/']) ++ named (split rest) := by
  by_cases empty : path = []
  · rw [empty]
    rfl
  · rw [components_concat empty]
    unfold components
    rw [lead_append empty, split_append, named_append, List.append_assoc]

theorem isAbsolute_of_lead (relative : lead path = []) : isAbsolute path = false := by
  unfold lead at relative
  split at relative
  · cases relative
  · rename_i absolute
    simpa using absolute

/-- A joined path leads to its directory and then on by the components of the file. -/
theorem components_join (directory : String) {file : String} (relative : lead file.toList = []) :
    ∃ separator, join directory file = directory ++ separator ++ file ∧
      (separator = "" ∨ separator = "/") ∧
      components (join directory file).toList =
        components directory.toList ++ components file.toList := by
  have inside : components file.toList = named (split file.toList) := by
    rw [components, relative, List.nil_append]
  unfold join
  rw [isAbsolute_of_lead relative, inside]
  split
  · rename_i impossible
    cases impossible
  · split
    · rename_i empty
      rw [List.getLast?_eq_none_iff] at empty
      have nothing : directory = "" := String.toList_eq_nil_iff.1 empty
      refine ⟨"", by simp [nothing], .inl rfl, ?_⟩
      rw [empty, inside]
      rfl
    · rename_i slash
      obtain ⟨path, same⟩ := List.getLast?_eq_some_iff.1 slash
      refine ⟨"", by simp, .inl rfl, ?_⟩
      rw [String.toList_append, same, List.append_assoc, List.singleton_append, components_append]
    · rename_i last _ ends
      have filled : directory.toList ≠ [] := by
        intro empty
        rw [empty] at ends
        cases ends
      refine ⟨"/", rfl, .inr rfl, ?_⟩
      have spelled : (directory ++ "/" ++ file).toList = directory.toList ++ '/' :: file.toList := by
        simp
      rw [spelled, components_append, components_concat filled]

theorem head?_split_iff (single : '/' ∉ part) :
    (split path).head? = some part ↔ path = part ∨ part ++ ['/'] <+: path := by
  constructor
  · intro first
    induction path using Text.byBreaks '/' with
    | last path whole =>
      rw [split_single whole] at first
      exact .inl (Option.some.inj first)
    | broken front behind whole ih =>
      rw [split_broken whole] at first
      cases first
      exact .inr ⟨behind, by simp⟩
  · rintro (rfl | ⟨behind, rfl⟩)
    · rw [split_single single]
      rfl
    · rw [List.append_assoc, List.singleton_append, split_broken single]
      rfl

theorem leadsOut_iff :
    LeadsOut path ↔ path = [] ∨ isAbsolute path = true ∨ ['.', '.'] ∈ split path ∨
      (split path).head? = some ['.'] := by
  unfold LeadsOut isAbsolute
  rw [mem_split_iff (by decide), head?_split_iff (by decide), beq_iff_eq]
  rfl

theorem not_leadsOut_iff_split :
    ¬ LeadsOut path ↔ path ≠ [] ∧ ¬ isAbsolute path = true ∧ ['.', '.'] ∉ split path ∧
      (split path).head? ≠ some ['.'] := by
  rw [leadsOut_iff, not_or, not_or, not_or]

/-- The names that do not lead out are those with nothing but names for components. -/
theorem not_leadsOut_iff :
    ¬ LeadsOut path ↔ path ≠ [] ∧ ∀ component ∈ components path, component.isName = true := by
  rw [not_leadsOut_iff_split]
  unfold components lead named Component.of
  constructor
  · rintro ⟨filled, relative, lower, undotted⟩
    refine ⟨filled, ?_⟩
    rw [if_neg relative, if_neg undotted, List.nil_append]
    intro component among
    obtain ⟨text, kept, rfl⟩ := List.mem_map.1 among
    rw [if_neg]
    · rfl
    · rintro rfl
      exact lower (List.mem_filter.1 kept).1
  · rintro ⟨filled, names⟩
    have relative : ¬ isAbsolute path = true := by
      intro absolute
      rw [if_pos absolute] at names
      cases names .root (by simp)
    refine ⟨filled, relative, ?_, ?_⟩
    · intro upper
      have among : Component.parent ∈ (List.filter (fun text => !isIdle text) (split path)).map
          fun text => if text = ['.', '.'] then Component.parent else .name text :=
        List.mem_map.2 ⟨['.', '.'], List.mem_filter.2 ⟨upper, rfl⟩, rfl⟩
      cases names .parent (List.mem_append_right _ among)
    · intro dotted
      rw [if_neg relative, if_pos dotted] at names
      cases names .current (by simp)

/-- Steps that never lead above the place they begin at, nor to the root of the file system. -/
structure StaysInside (steps : List Component) : Prop where
  relative : .root ∉ steps
  bounded : ∀ front, front <+: steps → front.count .parent ≤ front.countP Component.isName

/-- Steps that never lead further up than from the directories entered so far lead somewhere. -/
theorem exists_descend_of_bounded {steps : List Component} (relative : .root ∉ steps)
    (inside : List (List Char)) (bounded : ∀ front, front <+: steps →
      front.count .parent ≤ front.countP Component.isName + inside.length) :
    ∃ place, descend inside steps = some place := by
  induction steps generalizing inside with
  | nil => exact ⟨inside, rfl⟩
  | cons step steps ih =>
    rw [List.mem_cons, not_or] at relative
    have behind (front : List Component) (begins : front <+: steps) :=
      bounded (step :: front) (List.cons_prefix_cons.2 ⟨rfl, begins⟩)
    cases step with
    | root => exact absurd rfl relative.1
    | current =>
      apply ih relative.2
      intro front begins
      simpa [Component.isName] using behind front begins
    | parent =>
      cases inside with
      | nil => simpa [Component.isName] using behind [] List.nil_prefix
      | cons first outside =>
        apply ih relative.2
        intro front begins
        have later := behind front begins
        rw [List.countP_cons_of_neg (by simp [Component.isName]), List.count_cons_self,
          List.length_cons] at later
        omega
    | name text =>
      apply ih relative.2
      intro front begins
      have later := behind front begins
      rw [List.countP_cons_of_pos rfl, List.count_cons_of_ne (by simp)] at later
      rw [List.length_cons]
      omega

/-- Steps that stay inside lead to a place inside. -/
theorem StaysInside.exists_descend {steps : List Component} (stays : StaysInside steps) :
    ∃ place, descend [] steps = some place := by
  apply exists_descend_of_bounded stays.relative
  intro front begins
  exact stays.bounded front begins

/-- Names and one step more never lead above the first name. -/
theorem staysInside_concat {steps : List Component} {last : Component}
    (names : ∀ step ∈ steps, step.isName = true)
    (ends : last.isName = true ∨ last = .parent ∧ steps ≠ []) : StaysInside (steps ++ [last]) := by
  have lower : steps.count .parent = 0 := by
    rw [List.count_eq_zero]
    intro among
    cases names .parent among
  constructor
  · intro among
    rcases List.mem_append.1 among with inside | same
    · cases names .root inside
    · rw [List.mem_singleton] at same
      rw [← same] at ends
      rcases ends with impossible | ⟨impossible, -⟩ <;> cases impossible
  · intro front begins
    rcases List.prefix_concat_iff.1 begins with same | begins
    · rw [same]
      rcases ends with named | ⟨rfl, filled⟩
      · rw [List.count_append, lower, List.count_singleton]
        split
        · rename_i upper
          rw [beq_iff_eq] at upper
          rw [upper] at named
          cases named
        · omega
      · have named : 0 < steps.countP Component.isName := by
          rw [List.countP_pos_iff]
          obtain ⟨step, among⟩ := List.exists_mem_of_ne_nil steps filled
          exact ⟨step, among, names step among⟩
        rw [List.count_append, List.countP_append, lower]
        simp
        omega
    · have none := begins.sublist.count_le Component.parent
      omega

/-- The first text of a name that does not lead out names something. -/
theorem isIdle_of_head? (inside : ¬ LeadsOut path) (first : (split path).head? = some part) :
    isIdle part = false := by
  obtain ⟨filled, relative, -, undotted⟩ := not_leadsOut_iff_split.1 inside
  have texts : part ≠ [] := by
    rintro rfl
    rcases (head?_split_iff (by simp)).1 first with empty | ⟨behind, absolute⟩
    · exact filled empty
    · apply relative
      rw [← absolute]
      rfl
  have dots : part ≠ ['.'] := by
    rintro rfl
    exact undotted first
  simp [isIdle, texts, dots]

theorem named_singleton (named : isIdle part = false) :
    FilePath.named [part] = [Component.of part] := by
  simp [FilePath.named, named]

/-- With an extension behind it, a name that does not lead out stays inside. -/
theorem staysInside_extended {extension : List Char} (inside : ¬ LeadsOut path)
    (filled : extension ≠ []) (single : '/' ∉ extension) :
    lead (path ++ '.' :: extension) = [] ∧ StaysInside (components (path ++ '.' :: extension)) := by
  have dotted : '/' ∉ '.' :: extension := by simp [single]
  obtain ⟨front, last, before, after⟩ := split_append_single path dotted
  have names := (not_leadsOut_iff.1 inside).2
  obtain ⟨nonempty, relative, -, undotted⟩ := not_leadsOut_iff_split.1 inside
  have named : isIdle (last ++ '.' :: extension) = false := by
    cases last <;> simp [isIdle, filled]
  have unled : lead (path ++ '.' :: extension) = [] := by
    unfold lead
    rw [if_neg, if_neg]
    · rw [after]
      cases front with
      | nil =>
        intro same
        rw [List.nil_append, List.head?_cons, Option.some.injEq] at same
        rw [same] at named
        cases named
      | cons first front =>
        rw [before] at undotted
        exact undotted
    · cases path with
      | nil => exact absurd rfl nonempty
      | cons character path => exact relative
  refine ⟨unled, ?_⟩
  unfold components
  rw [unled, after, List.nil_append, named_append, named_singleton named]
  apply staysInside_concat
  · intro step among
    apply names
    unfold components
    rw [before, named_append]
    exact List.mem_append_right _ (List.mem_append_left _ among)
  · unfold Component.of
    split
    · rename_i upper
      right
      refine ⟨rfl, ?_⟩
      have ended : last = [] := by
        cases last with
        | nil => rfl
        | cons character last => cases last <;> simp_all
      cases front with
      | nil =>
        have whole : (split path).head? = some [] := by
          rw [before, ended]
          rfl
        cases isIdle_of_head? inside whole
      | cons first front =>
        have begins : (split path).head? = some first := by
          rw [before]
          rfl
        have kept := isIdle_of_head? inside begins
        simp [FilePath.named, kept]
    · exact .inl rfl

theorem staysInside_of_names {steps : List Component}
    (names : ∀ step ∈ steps, step.isName = true) : StaysInside steps := by
  cases steps.eq_nil_or_concat with
  | inl empty =>
    rw [empty]
    exact ⟨by simp, fun front begins => by simp [List.prefix_nil.1 begins]⟩
  | inr split =>
    obtain ⟨front, last, rfl⟩ := split
    rw [List.concat_eq_append] at names ⊢
    apply staysInside_concat
    · intro step among
      exact names step (List.mem_append_left _ among)
    · exact .inl (names last (List.mem_append_right _ (List.mem_singleton_self _)))

theorem staysInside_of_inside (inside : ¬ LeadsOut path) :
    lead path = [] ∧ StaysInside (components path) := by
  refine ⟨?_, staysInside_of_names (not_leadsOut_iff.1 inside).2⟩
  obtain ⟨-, relative, -, undotted⟩ := not_leadsOut_iff_split.1 inside
  unfold lead
  rw [if_neg relative, if_neg undotted]

end FilePath

namespace DirectoryPartials

open FilePath

theorem isValidName_iff (name : String) : isValidName name = true ↔ ¬ LeadsOut name.toList := by
  rw [not_leadsOut_iff_split]
  unfold isValidName
  dsimp only
  rw [Bool.and_eq_true, Bool.and_eq_true, Bool.and_eq_true, List.all_eq_true, bne_iff_ne]
  constructor
  · rintro ⟨⟨⟨filled, relative⟩, undotted⟩, lower⟩
    refine ⟨by simpa using filled, by simpa using relative, ?_, undotted⟩
    intro upper
    have unequal := lower _ upper
    simp at unequal
  · rintro ⟨filled, relative, lower, undotted⟩
    refine ⟨⟨⟨by simpa using filled, by simpa using relative⟩, undotted⟩, ?_⟩
    intro text among
    rw [bne_iff_ne]
    rintro rfl
    exact lower among

variable {partials : DirectoryPartials}

/-- The file that is looked for under a name. -/
def fileOf (partials : DirectoryPartials) (name : String) : String :=
  if partials.extension.isEmpty then name else name ++ "." ++ partials.extension

theorem staysInside_fileOf {name : String} (single : '/' ∉ partials.extension.toList)
    (inside : ¬ LeadsOut name.toList) :
    lead (partials.fileOf name).toList = [] ∧
      StaysInside (components (partials.fileOf name).toList) := by
  unfold fileOf
  split
  · exact staysInside_of_inside inside
  · rename_i filled
    have spelled : (name ++ "." ++ partials.extension).toList =
        name.toList ++ '.' :: partials.extension.toList := by simp
    rw [spelled]
    apply staysInside_extended inside ?_ single
    simpa using filled

/-- Asking for a partial looks at the path of its file only. -/
theorem partial?_of_disk {disk : Disk} {name : String}
    (same : ∀ path, partials.pathFor name = .ok path →
      disk.read? path = partials.disk.read? path) :
    (Host.partial? { partials with disk } name).1 = (Host.partial? partials name).1 := by
  change ({ partials with disk }.lookUp name).1.map _ = (partials.lookUp name).1.map _
  congr 1
  have paths : { partials with disk }.pathFor name = partials.pathFor name := rfl
  unfold lookUp
  rw [paths]
  dsimp only
  cases partials.compiled.find? name with
  | some compiled => rfl
  | none =>
    cases found : partials.pathFor name with
    | error reason => rfl
    | ok path =>
      dsimp only
      rw [same path found]
      cases partials.disk.read? path with
      | none => rfl
      | some answer =>
        cases answer with
        | ok source =>
          unfold load
          dsimp only
          cases compilePartial name source (.file path) <;> rfl
        | error failure => cases failure <;> rfl

/-- A name is refused exactly if it leads out, which are the names with anything but names for
components. Any other leads to the directory and on by components that never lead above it, with
the extension behind them; and no other place is looked at for it. -/
theorem pathFor_stays_inside (single : '/' ∉ partials.extension.toList) (name : String) :
    (partials.pathFor name = .error (RunError.ofCause (.invalidName name)) ↔
      LeadsOut name.toList) ∧
    (¬ LeadsOut name.toList ↔
      name.toList ≠ [] ∧ ∀ component ∈ components name.toList, component.isName = true) ∧
    (¬ LeadsOut name.toList → ∃ path file separator, partials.pathFor name = .ok path ∧
      path = partials.root ++ separator ++ file ∧ (separator = "" ∨ separator = "/") ∧
      isAbsolute file.toList = false ∧
      components path.toList = components partials.root.toList ++ components file.toList ∧
      (∀ front, front <+: components file.toList →
        front.count .parent ≤ front.countP Component.isName) ∧
      ∃ place, descend [] (components file.toList) = some place) ∧
    ∀ disk : Disk,
      (∀ path, partials.pathFor name = .ok path → disk.read? path = partials.disk.read? path) →
      (Host.partial? { partials with disk } name).1 = (Host.partial? partials name).1 := by
  have answers : partials.pathFor name = if isValidName name then
      .ok (join partials.root (partials.fileOf name))
      else .error (RunError.ofCause (.invalidName name)) := rfl
  refine ⟨?_, not_leadsOut_iff, ?_, ?_⟩
  · rw [answers]
    split
    · rename_i valid
      simpa using (isValidName_iff name).1 valid
    · rename_i refused
      rw [isValidName_iff, not_not] at refused
      simpa using refused
  · intro inside
    rw [if_pos ((isValidName_iff name).2 inside)] at answers
    obtain ⟨unled, stays⟩ := staysInside_fileOf single inside
    obtain ⟨separator, spelled, separates, follows⟩ := components_join partials.root unled
    exact ⟨_, partials.fileOf name, separator, answers, spelled, separates,
      isAbsolute_of_lead unled, follows, stays.bounded, stays.exists_descend⟩
  · intro disk same
    exact partial?_of_disk same

/-- With a dot for its extension, a name that ends in a slash has a file that leads back to the
directory of partials, and no further. -/
theorem pathFor_stays_inside_dotted :
    let partials := ofRoot DiskTree.empty.toDisk "views" "."
    '/' ∉ partials.extension.toList ∧ partials.pathFor "a/" = .ok "views/a/.." ∧
      components "views/a/..".toList = [.name ['v', 'i', 'e', 'w', 's'], .name ['a'], .parent] ∧
      LeadsOut "a/../b".toList ∧
      partials.pathFor "a/../b" = .error (RunError.ofCause (.invalidName "a/../b")) := by
  intro partials
  have single : '/' ∉ partials.extension.toList := show '/' ∉ ".".toList by decide
  obtain ⟨refused, -, -, -⟩ := pathFor_stays_inside single "a/../b"
  have dotted : LeadsOut "a/../b".toList := .inr (.inr (.inl ⟨['a', '/'], ['/', 'b'], by decide⟩))
  exact ⟨single, by cbv, by decide, dotted, refused.2 dotted⟩

end DirectoryPartials

end Mustache
