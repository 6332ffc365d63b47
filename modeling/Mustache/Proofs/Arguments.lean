import Mustache.Command.Execution

/-!
# Options and the template file

Options take effect in the order they are written, up to the template file. What stands behind the
file is never looked at, neither to take effect nor to be refused, so the file can go before the
options only if these ask for what holds anyway.
-/

namespace Mustache.Command

set_option autoImplicit false

/-- A flag as it is written among the arguments, with its value if it takes one. -/
inductive WrittenFlag where
  | alone (spelling : String) (switch : Switch)
      (known : Flag.spellings.lookup spelling = some (.switch switch))
  | withValue (spelling : String) (flag : ValuedFlag) (value : String)
      (known : Flag.spellings.lookup spelling = some (.valued flag))

namespace WrittenFlag

def words : WrittenFlag → List String
  | alone spelling _ _ => [spelling]
  | withValue spelling _ value _ => [spelling, value]

def set (settings : Settings) : WrittenFlag → Except UsageError Settings
  | alone _ switch _ => .ok (settings.turnOn switch)
  | withValue _ flag value _ => settings.assign flag value

/-- Sets one flag after another. -/
def setAll (settings : Settings) : List WrittenFlag → Except UsageError Settings
  | [] => .ok settings
  | flag :: rest => (flag.set settings).bind fun next => setAll next rest

end WrittenFlag

theorem Flag.head_of_lookup {argument : String} {flag : Flag}
    (known : spellings.lookup argument = some flag) : argument.toList.head? = some '-' := by
  have dashed : ∀ entry ∈ spellings, entry.1.toList.head? = some '-' := by decide
  obtain ⟨before, after, whole, -⟩ := List.lookup_eq_some_iff.1 known
  exact dashed (argument, flag) (by simp [whole])

/-- An argument that does not begin with a dash is no flag. -/
theorem Flag.lookup_eq_none {argument : String} (plain : argument.toList.head? ≠ some '-') :
    spellings.lookup argument = none := by
  cases known : spellings.lookup argument with
  | none => rfl
  | some flag => exact absurd (head_of_lookup known) plain

namespace Settings

theorem file_turnOn (settings : Settings) (switch : Switch) :
    (settings.turnOn switch).file = settings.file := by
  cases switch <;> rfl

theorem file_assign {settings next : Settings} {flag : ValuedFlag} {value : String}
    (assigned : settings.assign flag value = .ok next) : next.file = settings.file := by
  cases flag with
  | depthLimit =>
    unfold assign at assigned
    dsimp only at assigned
    split at assigned
    · cases assigned
      rfl
    · cases assigned
  | _ =>
    cases assigned
    rfl

/-- No flag names the template file. -/
theorem file_setAll {settings next : Settings} {options : List WrittenFlag}
    (done : WrittenFlag.setAll settings options = .ok next) : next.file = settings.file := by
  induction options generalizing settings with
  | nil =>
    cases done
    rfl
  | cons option options ih =>
    rw [WrittenFlag.setAll] at done
    cases first : option.set settings with
    | error reason =>
      rw [first] at done
      cases done
    | ok middle =>
      rw [first] at done
      rw [ih done]
      cases option with
      | alone spelling switch known =>
        cases first
        exact file_turnOn settings switch
      | withValue spelling flag value known => exact file_assign first

end Settings

namespace Request

theorem readArguments_option (settings : Settings) (option : WrittenFlag) (rest : List String) :
    readArguments settings (option.words ++ rest) =
      (option.set settings).bind fun next => readArguments next rest := by
  cases option with
  | alone spelling switch known =>
    rw [WrittenFlag.words, List.singleton_append, readArguments, known]
    rfl
  | withValue spelling flag value known =>
    rw [WrittenFlag.words, List.cons_append, List.singleton_append, readArguments, known]
    dsimp only
    rw [WrittenFlag.set]
    cases settings.assign flag value <;> rfl

/-- Options are set one after another, and the arguments behind them are read on top of that. -/
theorem readArguments_options (settings : Settings) (options : List WrittenFlag)
    (rest : List String) :
    readArguments settings (options.flatMap WrittenFlag.words ++ rest) =
      (WrittenFlag.setAll settings options).bind fun next => readArguments next rest := by
  induction options generalizing settings with
  | nil => rfl
  | cons option options ih =>
    rw [List.flatMap_cons, List.append_assoc, readArguments_option, WrittenFlag.setAll]
    cases option.set settings with
    | error reason => rfl
    | ok next => exact ih next

theorem readArguments_file (settings : Settings) {file : String}
    (plain : file.toList.head? ≠ some '-') (rest : List String) :
    readArguments settings (file :: rest) = .ok (.run { settings with file := some file }) := by
  rw [readArguments, Flag.lookup_eq_none plain]
  exact if_neg plain

theorem readArguments_unknown (settings : Settings) {argument : String}
    (dashed : argument.toList.head? = some '-') (unknown : Flag.spellings.lookup argument = none)
    (rest : List String) :
    readArguments settings (argument :: rest) = .error (.unknownOption argument) := by
  rw [readArguments, unknown]
  exact if_pos dashed

theorem readArguments_lacking (settings : Settings) {argument : String} {flag : ValuedFlag}
    (known : Flag.spellings.lookup argument = some (.valued flag)) :
    readArguments settings [argument] = .error (.missingArgument argument) := by
  rw [readArguments, known]

/-- Settings that differ in nothing but a file that both are to be given are the same. -/
theorem run_eq_iff {settings other : Settings} (same : settings.file = other.file) (file : String) :
    Request.run { settings with file := some file } = .run { other with file := some file } ↔
      settings = other := by
  obtain ⟨template, _, data, globals, partials, extension, tokens, listing, interactive, render⟩ :=
    settings
  cases other
  cases same
  simp

/-- Options before the template file take effect, and whatever is wrong among them is reported.
Behind the file nothing is read: the two orders come to the same exactly if the options leave the
settings as they are anyway. -/
theorem ofArguments_around_file (options : List WrittenFlag) (file : String)
    (plain : file.toList.head? ≠ some '-') :
    (∀ rest, ofArguments (options.flatMap WrittenFlag.words ++ file :: rest) =
      (WrittenFlag.setAll Settings.standard options).map
        fun settings => .run { settings with file := some file }) ∧
    (ofArguments (options.flatMap WrittenFlag.words ++ [file]) =
        ofArguments (file :: options.flatMap WrittenFlag.words) ↔
      WrittenFlag.setAll Settings.standard options = .ok Settings.standard) ∧
    (∀ settings, WrittenFlag.setAll Settings.standard options = .ok settings →
      (∀ argument rest, argument.toList.head? = some '-' →
        Flag.spellings.lookup argument = none →
          ofArguments (options.flatMap WrittenFlag.words ++ argument :: rest) =
            .error (.unknownOption argument)) ∧
      ∀ argument flag, Flag.spellings.lookup argument = some (.valued flag) →
        ofArguments (options.flatMap WrittenFlag.words ++ [argument]) =
          .error (.missingArgument argument)) := by
  have before (rest : List String) :
      ofArguments (options.flatMap WrittenFlag.words ++ file :: rest) =
        (WrittenFlag.setAll Settings.standard options).map
          fun settings => .run { settings with file := some file } := by
    rw [ofArguments, readArguments_options]
    simp only [readArguments_file _ plain]
    rfl
  have behind : ofArguments (file :: options.flatMap WrittenFlag.words) =
      .ok (.run { Settings.standard with file := some file }) :=
    readArguments_file Settings.standard plain _
  refine ⟨before, ?_, ?_⟩
  · rw [before, behind]
    cases done : WrittenFlag.setAll Settings.standard options with
    | error reason => simp [Except.map]
    | ok settings =>
      simp only [Except.map, Except.ok.injEq]
      exact run_eq_iff (Settings.file_setAll done) file
  · intro settings done
    constructor
    · intro argument rest dashed unknown
      rw [ofArguments, readArguments_options, done]
      exact readArguments_unknown settings dashed unknown rest
    · intro argument flag known
      rw [ofArguments, readArguments_options, done]
      exact readArguments_lacking settings known

theorem ofArguments_around_file_extension :
    "a.mustache".toList.head? ≠ some '-' ∧
      (ofArguments ["--ext", "mustache", "a.mustache"] =
        ofArguments ["a.mustache", "--ext", "mustache"]) ∧
      ofArguments ["--ext", "html", "a.mustache"] ≠ ofArguments ["a.mustache", "--ext", "html"] ∧
      ofArguments ["--ext", "html", "-x", "a.mustache"] = .error (.unknownOption "-x") ∧
      ofArguments ["--ext", "html", "-d"] = .error (.missingArgument "-d") := by
  have plain : "a.mustache".toList.head? ≠ some '-' := by decide
  have standard := ofArguments_around_file [.withValue "--ext" .extension "mustache" rfl]
    "a.mustache" plain
  have other := ofArguments_around_file [.withValue "--ext" .extension "html" rfl]
    "a.mustache" plain
  refine ⟨plain, standard.2.1.2 rfl, ?_, ?_, ?_⟩
  · intro same
    have unchanged := Except.ok.inj (other.2.1.1 same)
    exact absurd (congrArg Settings.extension unchanged) (by decide)
  · exact (other.2.2 _ rfl).1 "-x" ["a.mustache"] (by decide) (by decide)
  · exact (other.2.2 _ rfl).2 "-d" .data rfl

/-- A data file named behind the template is not loaded, and an unknown option there is not
reported. -/
theorem unread_behind_file :
    ofArguments ["page.mustache", "-d", "page.json"] =
        .ok (.run { Settings.standard with file := some "page.mustache" }) ∧
      ofArguments ["-d", "page.json", "page.mustache"] ≠
        ofArguments ["page.mustache", "-d", "page.json"] ∧
      ofArguments ["page.mustache", "--unknown"] =
        .ok (.run { Settings.standard with file := some "page.mustache" }) := by
  refine ⟨rfl, ?_, rfl⟩
  intro same
  cases same

end Request

end Mustache.Command
