import Mustache.Machine
import Mustache.Text.Quoted
import Mustache.Value.Lookup

/-!
# Requests

What the arguments of the command ask for. Arguments are read in order. A request for help or for
the version ends the reading, and so does the first argument that is no flag: it names the template
file, and what follows it is not looked at.
-/

namespace Mustache.Command

set_option autoImplicit false

/-- What to render, and how. Each entry holds the last value that was given for it. -/
structure Settings where
  /-- A template given as an argument. -/
  template : Option String
  /-- The file of the template. -/
  file : Option String
  /-- The file of the data. -/
  data : Option String
  /-- The file of the values below all data. -/
  globals : Option String
  /-- The directory of the partials. -/
  partials : Option String
  /-- The extension of the files of partials. -/
  extension : String
  /-- Print the tree instead of rendering. -/
  tokens : Bool
  /-- Print the listing of the code instead of rendering. -/
  listing : Bool
  /-- Start a session afterwards. -/
  interactive : Bool
  render : Options
deriving Repr, DecidableEq, Inhabited

/-- The extension of the files of partials, unless another is asked for. -/
def standardExtension : String := "mustache"

def Settings.standard : Settings :=
  ⟨none, none, none, none, none, standardExtension, false, false, false, Options.standard⟩

/-- What the command is asked to do. -/
inductive Request where
  | help
  | version
  | run (settings : Settings)
deriving Repr, DecidableEq, Inhabited

/-- Why arguments cannot be understood. -/
inductive UsageError where
  | missingArgument (flag : String)
  | unknownOption (flag : String)
  /-- The depth limit is no number, or does not fit 64 bits. -/
  | invalidDepth (text : String)
deriving Repr, DecidableEq, Inhabited

def UsageError.message : UsageError → String
  | missingArgument flag => flag ++ " requires an argument"
  | unknownOption flag => "Unknown option: " ++ flag
  | invalidDepth text => "--max-depth expects a number, got " ++ Text.quote text

/-- A flag that stands alone. -/
inductive Switch where
  | tokens
  | listing
  | unescaped
  | interactive
deriving Repr, DecidableEq

/-- A flag whose value is the next argument. -/
inductive ValuedFlag where
  | template
  | data
  | globals
  | partials
  | extension
  | depthLimit
deriving Repr, DecidableEq

/-- A flag. -/
inductive Flag where
  | help
  | version
  | switch (switch : Switch)
  | valued (flag : ValuedFlag)
deriving Repr, DecidableEq

def Flag.spellings : List (String × Flag) :=
  [("-h", .help), ("--help", .help), ("-v", .version), ("--version", .version),
    ("-e", .valued .template), ("--eval", .valued .template),
    ("-d", .valued .data), ("--data", .valued .data),
    ("-g", .valued .globals), ("--globals", .valued .globals),
    ("-p", .valued .partials), ("--partials", .valued .partials),
    ("--ext", .valued .extension), ("--max-depth", .valued .depthLimit),
    ("--tokens", .switch .tokens), ("--disasm", .switch .listing),
    ("--no-escape", .switch .unescaped),
    ("-i", .switch .interactive), ("--interactive", .switch .interactive)]

namespace Settings

def turnOn (settings : Settings) : Switch → Settings
  | .tokens => { settings with tokens := true }
  | .listing => { settings with listing := true }
  | .unescaped => { settings with render := ⟨.none, settings.render.depthLimit⟩ }
  | .interactive => { settings with interactive := true }

def assign (settings : Settings) (flag : ValuedFlag) (value : String) :
    Except UsageError Settings :=
  match flag with
  | .template => .ok { settings with template := some value }
  | .data => .ok { settings with data := some value }
  | .globals => .ok { settings with globals := some value }
  | .partials => .ok { settings with partials := some value }
  | .extension => .ok { settings with extension := value }
  | .depthLimit =>
    match readUnsigned? value with
    | some limit => .ok { settings with render := ⟨settings.render.escaping, limit⟩ }
    | none => .error (.invalidDepth value)

end Settings

namespace Request

/-- Reads arguments on top of settings made so far. -/
def readArguments (settings : Settings) : List String → Except UsageError Request
  | [] => .ok (.run settings)
  | argument :: rest =>
    match Flag.spellings.lookup argument with
    | some .help => .ok .help
    | some .version => .ok .version
    | some (.switch switch) => readArguments (settings.turnOn switch) rest
    | some (.valued flag) =>
      match rest with
      | [] => .error (.missingArgument argument)
      | value :: rest =>
        match settings.assign flag value with
        | .error error => .error error
        | .ok next => readArguments next rest
    | none =>
      if argument.toList.head? = some '-' then .error (.unknownOption argument)
      else .ok (.run { settings with file := some argument })

def ofArguments (arguments : List String) : Except UsageError Request :=
  readArguments Settings.standard arguments

end Request

end Mustache.Command
