import CatchAll.Command.Screen
import CatchAll.Registry

/-!
# Languages on the command line

The list of all languages, and what is told about one of them.
-/

set_option autoImplicit false

namespace CatchAll.Command

open scoped Text

/-- Words with capitals; the names of settings are in plain letters. -/
def heading (key : Text) : Text :=
  Text.joinWith " " ((Text.cut (· = '_') key).map fun word =>
    match word with
    | c :: rest => c.toUpper :: rest
    | [] => [])

def stopOfRegistry (e : RegistryError) : Stop := .complaint e.message

def ofRegistry {α : Type} (work : Journaled RegistryError α) : Work α :=
  Work.ofJournaled stopOfRegistry work

def languageRow (language : Text) (i : Registry.Info) : List Text :=
  let aliases : Text :=
    if i.aliases.isEmpty then "[dim]none[/dim]" else Text.joinWith ", " i.aliases
  [language, i.extension, i.className, i.policy, aliases]

def listLanguages (r : Registry) : Work Nat := do
  let infos ← ofRegistry (r.allInfo [])
  if infos.isEmpty then
    Work.result (.line "[yellow]⚠️ No code generators available[/yellow]")
  else
    Work.result (.grid "📋 Supported Languages"
      ["Language", "Extension", "Generator Class", "Policy", "Aliases"]
      (infos.map fun (language, i) => languageRow language i))
    Work.result (.panel "💡 Quick Start"
      ["[bold]Usage:[/bold] openenum generate [dim]schema.json[/dim] " ++
         "--language [cyan]LANGUAGE[/cyan]",
       "[bold]Info:[/bold] openenum generate --language-info [cyan]LANGUAGE[/cyan]"])
  return 0

/-- The settings of a configuration, language specific ones last and sorted. -/
def settingRows (c : Config) : List (List Text) :=
  let custom : Fields := match c.custom with
    | .obj fields => fields.mergeSort fun a b => Text.le a.1 b.1
    | _ => []
  let shown : Json → Text
    | .arr items => Text.joinWith ", " (items.map Json.shown)
    | v => v.shown
  let fixed : List (List Text) :=
    [["Module Name", c.moduleName.shown], ["Indent Size", c.indentSize.shown],
     ["Type Case", c.typeCase.shown], ["Variant Case", c.variantCase.shown],
     ["Add Comments", c.addComments.shown]]
  fixed ++ custom.map fun (key, value) => [heading key, shown value]

def infoLines (i : Registry.Info) : List Text :=
  ["[bold]Language:[/bold] " ++ i.name, "[bold]File Extension:[/bold] " ++ i.extension,
   "[bold]Generator Class:[/bold] " ++ i.className, "[bold]Enum Policy:[/bold] " ++ i.policy,
   "[bold]Module:[/bold] " ++ i.home] ++
    (if i.aliases.isEmpty then []
    else ["[bold]Aliases:[/bold] " ++ Text.joinWith ", " i.aliases])

def exampleLines (i : Registry.Info) : List Text :=
  ["Generate to stdout:",
   "[cyan]openenum generate --language " ++ i.name ++ " schema.json[/cyan]",
   [],
   "Generate to file:",
   "[cyan]openenum generate -l " ++ i.name ++ " -o enums" ++ i.extension ++
     " schema.json[/cyan]"]

def showLanguage (r : Registry) (language : Text) : Work Nat := do
  if r.isSupported language then
    let i ← ofRegistry (r.info [] language)
    Work.result (.panel ("🔧 " ++ heading i.name ++ " Generator") (infoLines i))
    let g ← ofRegistry (r.create [] language .standard)
    Work.result (.grid "⚙️  Default Configuration" ["Setting", "Value"] (settingRows g.plan.config))
    Work.result (.panel "💡 Usage Examples" (exampleLines i))
    return 0
  else
    Work.say ("[red]✗ Language '" ++ language ++ "' is not supported[/red]")
    Work.say "[dim]Use --list-languages to see available options[/dim]"
    return 1

end CatchAll.Command
