import CatchAll.Command.Languages
import CatchAll.Command.Usage
import CatchAll.Generation
import CatchAll.Logging
import CatchAll.Schema.Source

/-!
# Running a command line

From the words of a command line to an exit status. Generated code goes to a file
or to the results. Whatever a run could not do is said among the messages; only
outside failures that nobody expects, and messages that are no markup, escape.
-/

set_option autoImplicit false

namespace CatchAll.Command

open scoped Text
open Schema

/-- What a run can reach besides the files, and the time as it is written in a log. -/
structure Outlook where
  stdin : Text
  transport : Web.Transport
  stamp : Text

def speaker : Text := "openenum.codegen.cli_integration"

/-! ## What is said -/

def unsupportedLine (language : Text) : Text :=
  "[red]✗ Unsupported language '" ++ language ++ "'[/red]"

def supportedLine (registry : Registry) : Text :=
  "[dim]Supported languages: " ++ Text.joinWith ", " registry.languages ++ "[/dim]"

def complaintLine (t : Text) : Text := "[red]✗ Error:[/red] " ++ Console.escape t

def failureLine (failure : Target.Failure) : Text :=
  "[red]✗ " ++ Console.escape (failure.report?.getD Target.Failure.headline) ++ "[/red]"

/-- What the system says about a place that cannot be written, with its number for it. -/
def systemComplaint (path : Text) (why : Outside) : Text :=
  let told (code : Nat) (t : Text) : Text :=
    "[Errno " ++ Text.ofNat code ++ "] " ++ t ++ ": " ++ Text.quoted path
  match why with
  | .isDirectory => told 21 "Is a directory"
  | .notDirectory => told 20 "Not a directory"
  | .nameTooLong => told 36 "File name too long"
  | _ => told 2 "No such file or directory"

def unwrittenLine (path : Text) (why : Outside) : Text :=
  "[red]✗ Failed to write to " ++ path ++ ":[/red] " ++ systemComplaint path why

def savedLine (path language : Text) : Text :=
  "[green]✓[/green] Generated " ++ language ++ " code saved to [cyan]" ++ path ++ "[/cyan]"

def metadataRows (m : Generator.Metadata) : List (List Text) :=
  [["Language", m.language], ["File Extension", m.extension], ["Module Name", m.module.shown],
   ["Enum Count", Text.ofNat m.enumCount], ["Member Count", Text.ofNat m.memberCount],
   ["Policy", m.policy]]

def metadataGrid (m : Generator.Metadata) : Console.Block :=
  .grid "📊 Generation Metadata" ["Property", "Value"] (metadataRows m)

def warningsLine : Text := "\n[yellow]⚠️  Warnings:[/yellow]"

def warningLine (warning : Text) : Text := "  [yellow]•[/yellow] " ++ Console.escape warning

/-! ## Steps of a generation -/

/-- The language that is asked for, if it is supported. One that is given without a
value is nothing that can be looked up. -/
def chosenLanguage (registry : Registry) (r : Request) : Work (Option Text) := do
  match r.language with
  | none => throw (.outside .missingOperation)
  | some language =>
    if registry.isSupported language then return some language
    else
      Work.say (unsupportedLine language)
      Work.say (supportedLine registry)
      return none

def stopOfLoad : LoadError → Stop
  | .outside o => .outside o
  | e => .complaint ("Failed to load input: " ++ e.brief?.getD [])

/-- A file is read as it is once the log has been told that it was found. -/
def loadFile (file : Text) : Work Loaded := do
  let path := Files.Path.ofText file
  Work.ofJournaled stopOfLoad (findFile (← getThe World).files path)
  Work.ofJournaled stopOfLoad (loadFound (← getThe World).files path)

def loadInput (o : Outlook) (r : Request) : Work Loaded := do
  if r.stdin then Work.ofJournaled stopOfLoad (loadStream o.stdin)
  else match Source.choose r.file r.url with
    | .error e => throw (stopOfLoad e)
    | .ok (.file file) => loadFile file
    | .ok (.url url) => Work.ofJournaled stopOfLoad (loadUrl o.transport url)

def stopOfSchema (source : Text) (e : SchemaError) : Stop :=
  .complaint ("Invalid schema in " ++ source ++ ": " ++ e.message)

def loadEnums (l : Loaded) : Work (List Definition) := do
  let enums ← Work.ofJournaled (stopOfSchema l.source) (Schema.load (.obj l.document))
  Work.record .info speaker
    ("Loaded " ++ Text.ofNat enums.length ++ " enums from " ++ l.source)
  return enums

/-- The settings that are given on the command line. -/
def overridesOf (r : Request) : Fields :=
  let given (key value : Text) : Fields := if value = [] then [] else [(key, .str value)]
  given "module_name" r.moduleName ++
    (if r.noComments then [("add_comments".toList, .bool false)] else []) ++
    given "variant_case" r.variantCase ++ given "output_file" r.output

def stopOfSetup : SetupError → Stop
  | .config e => .complaint ("Configuration error: " ++ e.message)
  | .outside o => .outside o

def configFor (registry : Registry) (language : Text) (r : Request) : Work Config := do
  let files := (← getThe World).files
  Work.ofJournaled stopOfSetup
    (Config.resolve files (registry.resolve language) (overridesOf r) r.config)

def runGenerator (g : Generator) (enums : List Definition) : Work Generator.Result := do
  Work.ofUnfailing (Generation.runGenerator g enums)

/-! ## Results -/

/-- Writes a file. A name that is no text for the system escapes. -/
def write (path : Files.Path) (code : Text) : Work Bool := do
  let world ← getThe World
  match world.files.target path.key with
  | .ok place =>
    set { world with files := world.files.put place (String.ofList code).toUTF8 }
    return true
  | .error .badValue => throw (.outside .badValue)
  | .error why =>
    Work.say (unwrittenLine path.text why)
    return false

def deliver (r : Request) (code : Text) (m : Generator.Metadata) : Work Bool := do
  if r.output = [] then
    Work.put code
    return true
  else
    let path := Files.Path.ofText r.output
    if ← write path code then
      Work.say (savedLine path.text m.language)
      return true
    else return false

def sayWarnings (warnings : List Text) : Work Unit := do
  unless warnings.isEmpty do
    Work.say warningsLine
    warnings.forM fun warning => Work.say (warningLine warning)

def report (r : Request) (code : Text) (warnings : List Text) (m : Generator.Metadata) :
    Work Nat := do
  if ← deliver r code m then
    if r.verbose then
      Work.message (metadataGrid m)
    sayWarnings warnings
    return 0
  else return 1

def finish (r : Request) : Generator.Result → Work Nat
  | .success code warnings m => report r code warnings m
  | .failed failure => do
    Work.say (failureLine failure)
    return 1

/-! ## The whole run -/

def generateIn (o : Outlook) (registry : Registry) (language : Text) (r : Request) :
    Work Nat := do
  if r.file = [] && r.url = [] && !r.stdin then
    throw (.complaint "Input source required (file, --url, or --stdin)")
  let enums ← loadEnums (← loadInput o r)
  let config ← configFor registry language r
  let g ← ofRegistry (registry.create (← getThe World).files language (.ready config))
  finish r (← runGenerator g enums)

def generate (o : Outlook) (registry : Registry) (r : Request) : Work Nat := do
  if r.listLanguages then listLanguages registry
  else if r.languageInfo ≠ [] then showLanguage registry r.languageInfo
  else match ← chosenLanguage registry r with
    | none => return 1
    | some language => generateIn o registry language r

/-- A complaint is shown, and the run has failed. -/
def complaining (work : Work Nat) : Work Nat :=
  tryCatchThe Stop work fun stop =>
    match stop with
    | .complaint t => do
      Work.say (complaintLine t)
      return 1
    | stop => throw stop

def setUpLog (o : Outlook) (r : Request) : Work Unit := do
  let world ← getThe World
  match Logging.setUp world.files (.ofLabel? r.logLevel) r.logFile o.stamp with
  | .ok (files, log) => set { world with files, log := some log }
  | .error (.outside e) => throw (.outside e)
  | .error (.unknownLevel _) => throw (.outside .badValue)

/-- The end of a run: its status if it has one, and what was written. -/
structure Ending where
  exit : Except Stop Nat
  world : World

def stopped (world : World) (s : Stopped) : Ending :=
  match s.halt with
  | .help => ⟨.ok 0, { world with out := helpText s.grammar }⟩
  | .version => ⟨.ok 0, { world with out := versionText ++ ['\n'] }⟩
  | .usage e => ⟨.ok 2, { world with err := complaintText s.grammar e }⟩

def runRequest (o : Outlook) (r : Request) : Work Nat := do
  setUpLog o r
  complaining (generate o .builtin r)

/-- Runs a command line on the files that there are. -/
def run (o : Outlook) (files : Files.Tree) (words : List Text) : Ending :=
  let world : World := ⟨files, [], [], none⟩
  match Asked.read words with
  | .error s => stopped world s
  | .ok .nothing => ⟨.ok 1, { world with err := helpText programGrammar }⟩
  | .ok (.generation r) =>
    let (exit, world) : Except Stop Nat × World := (runRequest o r).run.run world
    ⟨exit, world⟩

end CatchAll.Command
