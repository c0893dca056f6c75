import CatchAll.Command.Given
import CatchAll.Journal
import CatchAll.Naming.Case
import CatchAll.Text.Casing

/-!
# Requests

The grammars of the program and of its one command, and what a command line asks
for: the settings of a generation, help, the version, or nothing.
-/

set_option autoImplicit false

namespace CatchAll.Command

open scoped Text

def versionText : Text := "openenum 0.1.0"

def version : Switch := ⟨["--version".toList], .version, [], id⟩

def programGrammar : Grammar where
  program := "openenum"
  switches := [.help, version]
  operand := .command "COMMAND" ["generate".toList]
  exclusive := []

def levelLabels : List Text := Level.all.map (·.label)

def variantCase : Switch :=
  ⟨["--variant-case".toList], .value, Naming.Case.all.map (·.label), id⟩

def logLevel : Switch := ⟨["--log-level".toList], .value, levelLabels, Text.upper⟩

def generateGrammar : Grammar where
  program := "openenum generate"
  switches :=
    [.help, .value ["--url".toList], .flag ["--stdin".toList],
     .value ["--language".toList, "-l".toList], .value ["--output".toList, "-o".toList],
     .value ["--config".toList], .value ["--module-name".toList], .flag ["--no-comments".toList],
     variantCase, .flag ["--verbose".toList, "-v".toList], logLevel,
     .value ["--log-file".toList], .flag ["--list-languages".toList],
     .value ["--language-info".toList]]
  operand := .argument "file"
  exclusive := ["file".toList, "--url".toList, "--stdin".toList]

/-- The settings of a generation; a text that is not given is empty. The language and the
log level have defaults, so they lack only when they are given without a value. -/
structure Request where
  file : Text
  url : Text
  stdin : Bool
  language : Option Text
  output : Text
  config : Text
  moduleName : Text
  noComments : Bool
  variantCase : Text
  verbose : Bool
  logLevel : Option Text
  logFile : Text
  listLanguages : Bool
  languageInfo : Text

def Request.ofGiven (given : Given) : Request :=
  let value (title : Text) : Text := (given.valueOr title none).getD []
  { file := given.argument.getD []
    url := value "--url"
    stdin := given.has "--stdin"
    language := given.valueOr "--language/-l" (some "rust")
    output := value "--output/-o"
    config := value "--config"
    moduleName := value "--module-name"
    noComments := given.has "--no-comments"
    variantCase := value "--variant-case"
    verbose := given.has "--verbose/-v"
    logLevel := given.valueOr "--log-level" (some "WARNING")
    logFile := value "--log-file"
    listLanguages := given.has "--list-languages"
    languageInfo := value "--language-info" }

/-- What a command line asks for. -/
inductive Asked where
  | nothing
  | generation (r : Request)

/-- A command line that ends before anything is done, and in which grammar. -/
structure Stopped where
  grammar : Grammar
  halt : Halt

def readGiven (g : Grammar) (words : List Text) : Except Stopped Given :=
  (Given.read g words).mapError (⟨g, ·⟩)

/-- Words that nobody wants are reported by the program. -/
def checkStrays (words : List Text) : Except Stopped Unit :=
  if words.isEmpty then .ok ()
  else .error ⟨programGrammar, .usage (.unrecognized words)⟩

def Asked.read (words : List Text) : Except Stopped Asked := do
  let outer ← readGiven programGrammar words
  match outer.command with
  | none =>
    checkStrays outer.strays
    return .nothing
  | some (_, rest) =>
    let given ← readGiven generateGrammar rest
    checkStrays (outer.strays ++ given.strays)
    return .generation (.ofGiven given)

end CatchAll.Command
