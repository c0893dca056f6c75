import CatchAll.Config.Basic
import CatchAll.Files.Tree
import CatchAll.Json.Reader

/-!
# Settings from several sources

The settings of a language start from its defaults; a file comes before the
overrides of the caller, and a later source wins. Keys that are no setting of
a configuration are language specific and end up under `custom`.
-/

set_option autoImplicit false

namespace CatchAll.Config

open scoped Text

def rustDefaults : Fields :=
  [("module_name", .str "types"), ("type_case", .str "pascal"), ("variant_case", .str "pascal"),
   ("add_comments", .bool true),
   ("custom", .obj
     [("derives", Json.strings
        ["Clone", "Debug", "Eq", "Hash", "Ord", "PartialEq", "PartialOrd"]),
      ("visibility", .str "pub")])]

def pythonDefaults : Fields :=
  [("module_name", .str "types"), ("type_case", .str "pascal"),
   ("variant_case", .str "screaming_snake"), ("add_comments", .bool true),
   ("custom", .obj [("decorators", Json.strings ["final"])])]

/-- Defaults are known for the primary name of a language alone. -/
def defaults (language : Text) : Fields :=
  if language = "rust" then rustDefaults
  else if language = "python" then pythonDefaults
  else [("custom", .obj [])]

/-- One setting over those there are; language specific settings are combined. -/
def override (base : Fields) (key : Text) (value : Json) : Except Outside Fields :=
  match value with
  | .obj new =>
    if key = "custom" then
      match Table.get? "custom" base with
      | none => .ok (base.put key value)
      | some (.obj old) => .ok (base.put key (.obj (Table.putAll new old)))
      | some _ => .error .missingOperation
    else .ok (base.put key value)
  | _ => .ok (base.put key value)

def merge (base overrides : Fields) : Except Outside Fields :=
  overrides.foldlM (fun base (key, value) => override base key value) base

def settingNames : List Text :=
  ["output_file", "module_name", "indent_size", "use_tabs", "line_ending", "type_case",
   "variant_case", "add_comments", "add_header", "custom"]

def isSetting (key : Text) : Bool := key ∈ settingNames

/-- The key that a value can be: a text, or a value that no text is equal to. -/
def keyOf : Json → Except Outside (Option Text)
  | .str key => .ok (some key)
  | .arr _ | .obj _ => .error .wrongKind
  | _ => .ok none

/-- A field that is made of a list element: of two characters, of a list of two values
or of the names of two fields. One whose key is no text is never found. -/
def pairOf : Json → Except Outside (Option (Text × Json))
  | .str [a, b] => .ok (some ([a], .str [b]))
  | .arr [key, value] => do return (← keyOf key).map (·, value)
  | .obj [(a, _), (b, _)] => .ok (some (a, .str b))
  | .str _ | .arr _ | .obj _ => .error .badValue
  | _ => .error .wrongKind

/-- The fields that a value can be taken for. -/
def fieldsOf : Json → Except Outside Fields
  | .obj fields => .ok fields
  | .arr items => do return Table.ofPairs ((← items.mapM pairOf).filterMap id)
  | .str [] => .ok []
  | .str _ => .error .badValue
  | _ => .error .wrongKind

def ofFields (fields : Fields) : Config :=
  let get (key : Text) (default : Json) : Json := (Table.get? key fields).getD default
  { outputFile := get "output_file" standard.outputFile
    moduleName := get "module_name" standard.moduleName
    indentSize := get "indent_size" standard.indentSize
    useTabs := get "use_tabs" standard.useTabs
    lineEnding := get "line_ending" standard.lineEnding
    typeCase := get "type_case" standard.typeCase
    variantCase := get "variant_case" standard.variantCase
    addComments := get "add_comments" standard.addComments
    addHeader := get "add_header" standard.addHeader
    custom := get "custom" standard.custom }

/-- Puts the fields that are no settings of their own under `custom`. -/
def gather (fields : Fields) : Except Outside Fields := do
  let own : Fields := fields.filter fun field => isSetting field.1
  let special : Fields := fields.filter fun field => !isSetting field.1
  if special.isEmpty then return own
  else
    let custom ← fieldsOf ((Table.get? "custom" own).getD (.obj []))
    return own.put "custom" (.obj (Table.putAll special custom))

def speaker : Text := "openenum.codegen.core.config"

def readFile (path : Text) (probe : Files.Probe) : Except SetupError Json :=
  match probe with
  | .missing .nameTooLong => .error (.outside .nameTooLong)
  | .missing _ => .error (.config (.fileNotFound path))
  | .directory =>
    if (Files.Path.ofText path).isJson then .error (.config (.unreadable path .isDirectory))
    else .error (.config (.fileNotJson path))
  | .file bytes =>
    if (Files.Path.ofText path).isJson then
      match Files.decode bytes with
      | .error o => .error (.outside o)
      | .ok t =>
        match Json.read t with
        | .ok v => .ok v
        | .error .malformed => .error (.config (.invalidJson path))
        | .error .numberTooLong => .error (.outside .badValue)
        | .error .tooDeep => .error (.outside .tooDeep)
    else .error (.config (.fileNotJson path))

def loadFile (tree : Files.Tree) (file : Text) : Journaled SetupError Fields := do
  let path := Files.Path.ofText file
  match ← (readFile path.text (tree.probe path) : Except SetupError Json) with
  | .obj fields =>
    note .debug speaker ("Loaded configuration from " ++ path.text)
    return fields
  | _ => throw (.config (.notAnObject path.text))

def ofOutside {α : Type} : Except Outside α → Except SetupError α
  | .ok a => .ok a
  | .error o => .error (.outside o)

/-- The configuration of a language; an empty file name means no file. -/
def resolve (tree : Files.Tree) (language : Text) (overrides : Fields) (file : Text) :
    Journaled SetupError Config := do
  let base := defaults language
  let base ← if file = [] then pure base
    else do
      let fields ← loadFile tree file
      (ofOutside (merge base fields) : Except SetupError Fields)
  let merged ← (ofOutside (merge base overrides) : Except SetupError Fields)
  let fields ← (ofOutside (gather merged) : Except SetupError Fields)
  let config := ofFields fields
  let _ ← (config.check : Except SetupError Settings)
  return config

end CatchAll.Config
