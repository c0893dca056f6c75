import CatchAll.Command.Request

/-!
# Usage

What the program says about its command line.
-/

set_option autoImplicit false

namespace CatchAll.Command

open scoped Text

def usageLines (g : Grammar) : List Text :=
  if g.program = programGrammar.program then
    ["usage: openenum [-h] [--version] COMMAND ..."]
  else
    List.map String.toList
    ["usage: openenum generate [-h] [--url URL] [--stdin] [--language LANGUAGE]",
     "                         [--output OUTPUT] [--config CONFIG]",
     "                         [--module-name MODULE_NAME] [--no-comments]",
     "                         [--variant-case \x7bcamel,pascal,screaming_snake,snake\x7d]",
     "                         [--verbose]",
     "                         [--log-level \x7bDEBUG,INFO,WARNING,ERROR,CRITICAL\x7d]",
     "                         [--log-file LOG_FILE] [--list-languages]",
     "                         [--language-info LANGUAGE]",
     "                         [file]"]

def programHelp : List String :=
  ["",
   "Generate forward-compatible string enums from enum schemas.",
   "",
   "positional arguments:",
   "  COMMAND",
   "    generate  Generate enums from an enum schema",
   "",
   "options:",
   "  -h, --help  show this help message and exit",
   "  --version   show program's version number and exit"]

def generateHelp : List String :=
  ["",
   "Generate forward-compatible string enums from an enum schema document",
   "",
   "positional arguments:",
   "  file                  Schema JSON file",
   "",
   "options:",
   "  -h, --help            show this help message and exit",
   "  --url URL             URL to fetch the schema from",
   "  --stdin               Read the schema from standard input",
   "  --language LANGUAGE, -l LANGUAGE",
   "                        Target language (default: rust)",
   "  --output OUTPUT, -o OUTPUT",
   "                        Output file (default: stdout)",
   "  --config CONFIG       Configuration file path (JSON)",
   "  --module-name MODULE_NAME",
   "                        Name of the generated module",
   "  --no-comments         Don't copy schema documentation into generated code",
   "  --variant-case \x7bcamel,pascal,screaming_snake,snake\x7d",
   "                        Naming case for enum members",
   "  --verbose, -v         Show generation metadata",
   "  --log-level \x7bDEBUG,INFO,WARNING,ERROR,CRITICAL\x7d",
   "                        Logging level (default: WARNING)",
   "  --log-file LOG_FILE   Also write log records to this file",
   "",
   "information:",
   "  --list-languages      List supported languages and exit",
   "  --language-info LANGUAGE",
   "                        Show detailed info about a language and exit",
   "",
   "Examples:",
   "  openenum generate --language rust schema.json -o types.rs",
   "  openenum generate -l python --stdin < schema.json > enums.py",
   "  openenum generate --url https://example.com/enums.json",
   "  openenum generate --list-languages",
   "  openenum generate --language-info python"]

def usageText (g : Grammar) : Text := (usageLines g).flatMap fun line => line ++ ['\n']

def helpText (g : Grammar) : Text :=
  let rest := if g.program = programGrammar.program then programHelp else generateHelp
  usageText g ++ rest.flatMap fun line => line.toList ++ ['\n']

/-- The usage, and what is wrong. -/
def complaintText (g : Grammar) (e : UsageError) : Text :=
  usageText g ++ g.program ++ ": error: " ++ e.message ++ ['\n']

end CatchAll.Command
