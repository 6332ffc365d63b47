import Mustache.Command.Request

/-!
# Texts of the command

What the command says about itself.
-/

namespace Mustache.Command

set_option autoImplicit false

def programName : String := "Whisker"

def programVersion : String := "0.1.0"

/-- The text for a request for the version. -/
def versionText : String := programName ++ " " ++ programVersion ++ "\n"

/-- The lines for a request for help. -/
def helpLines : List String :=
  ["",
    programName ++ " v" ++ programVersion ++ " - Mustache templates, compiled",
    "",
    "Usage:",
    "  whisker [options] [template-file]",
    "",
    "Options:",
    "  -h, --help            Show this help message",
    "  -v, --version         Show version",
    "  -e, --eval TEMPLATE   Render a template given on the command line",
    "  -d, --data FILE       JSON data to render against (default: \x7b\x7d)",
    "  -g, --globals FILE    JSON data visible beneath every render's data",
    "  -p, --partials DIR    Directory for \x7b\x7b>name\x7d\x7d lookups (default: template dir)",
    "      --ext EXT         Partial file extension (default: " ++ standardExtension ++ ")",
    "      --tokens          Print the token tree instead of rendering",
    "      --disasm          Print the compiled instruction listing",
    "      --no-escape       Disable HTML escaping",
    "      --max-depth N     Limit nested partial and lambda renders",
    "  -i, --interactive     Start a REPL that renders each entry",
    "",
    "Examples:",
    "  whisker page.mustache -d page.json",
    "  whisker -e \x22Hello \x7b\x7bname\x7d\x7d\x22 -d user.json",
    "  whisker --disasm page.mustache",
    ""]

/-- The lines that answer a call for help in a session. -/
def sessionHelpLines : List String :=
  ["",
    "REPL Commands:",
    "  /help     Show this help",
    "  /clear    Clear the screen",
    "  /exit     Exit the REPL",
    "",
    "Each entry is rendered against the loaded data. Entries that open a",
    "section keep reading lines until it is closed.",
    ""]

/-- Lines as text, each with its line end. -/
def textOfLines (lines : List String) : String := String.join (lines.map (· ++ "\n"))

/-- The text for a request for help. -/
def helpText : String := textOfLines helpLines

/-- The text that answers a call for help in a session. -/
def sessionHelpText : String := textOfLines sessionHelpLines

def banner : String :=
  programName ++ " v" ++ programVersion ++ " - Type 'exit' or Ctrl+D to quit\n\n"

/-- The last line of a session that was ended in words. -/
def farewell : String := "Goodbye!\n"

/-- What clears the screen of a terminal. -/
def clearScreen : String := "\x1b[2J\x1b[1;1H"

/-- The answer to an unknown call in a session. -/
def unknownCall (name : String) : String :=
  "Unknown command: /" ++ name ++ ". Type /help for available commands.\n"

def errorLine (message : String) : String := "Error: " ++ message ++ "\n"

end Mustache.Command
