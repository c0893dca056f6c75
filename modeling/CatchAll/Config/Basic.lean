import CatchAll.Journal
import CatchAll.Json.Shown
import CatchAll.Naming.Case

/-!
# Configuration

A configuration keeps each setting as the value that was given. A check
rejects naming cases that do not exist and an indentation below one; it turns
a configuration into settings, where both cases are known. The language
specific settings are the fields under `custom`.
-/

set_option autoImplicit false

namespace CatchAll

open scoped Text

structure Config where
  outputFile : Json
  moduleName : Json
  indentSize : Json
  useTabs : Json
  lineEnding : Json
  typeCase : Json
  variantCase : Json
  addComments : Json
  addHeader : Json
  custom : Json

inductive ConfigError where
  | fileNotFound (path : Text)
  | fileNotJson (path : Text)
  | invalidJson (path : Text)
  | unreadable (path : Text) (why : Outside)
  | notAnObject (path : Text)
  | unknownCase (setting : Text) (value : Json)
  | indentTooSmall (value : Json)
  | unknownDerives (names : List Text)
  | deriveNotPossible (name : Text)
  | unknownVisibility (shown : Text)
  | unknownDecorators (names : List Text)

namespace ConfigError

def message : ConfigError → Text
  | fileNotFound path => "Configuration file not found: " ++ path
  | fileNotJson path => "Configuration file must be JSON: " ++ path
  | invalidJson path => "Invalid JSON in configuration file " ++ path
  | unreadable path _ => "Failed to load configuration file " ++ path
  | notAnObject path => "Configuration file must contain a JSON object: " ++ path
  | unknownCase setting value =>
    "Invalid " ++ setting ++ ": " ++ value.quoted ++ " (expected one of: " ++
      Text.joinWith ", " (Naming.Case.all.map (·.label)) ++ ")"
  | indentTooSmall value => "Invalid indent_size: " ++ value.shown
  | unknownDerives names => "Invalid derives: " ++ Text.joinWith ", " names
  | deriveNotPossible name => "Enums with an Unknown variant cannot derive " ++ name
  | unknownVisibility shown => "Invalid visibility: " ++ shown
  | unknownDecorators names => "Unsupported decorators: " ++ Text.joinWith ", " names

/-- The outside failure behind an error. -/
def cause? : ConfigError → Option Outside
  | invalidJson _ => some .malformedJson
  | unreadable _ why => some why
  | _ => none

end ConfigError

/-- A configuration is rejected, or a value in it cannot be used at all. -/
inductive SetupError where
  | config (e : ConfigError)
  | outside (o : Outside)

namespace SetupError

def message? : SetupError → Option Text
  | config e => some e.message
  | outside _ => none

def cause? : SetupError → Option Outside
  | config e => e.cause?
  | outside o => some o

end SetupError

/-- A configuration whose naming cases are known. -/
structure Settings where
  config : Config
  typeCase : Naming.Case
  variantCase : Naming.Case

namespace Config

def standard : Config where
  outputFile := .null
  moduleName := .str "types"
  indentSize := .int 4
  useTabs := .bool false
  lineEnding := .str ['\n']
  typeCase := .str "pascal"
  variantCase := .str "pascal"
  addComments := .bool true
  addHeader := .bool true
  custom := .obj []

def checkCase (setting : Text) (value : Json) : Except SetupError Naming.Case :=
  match value with
  | .arr _ | .obj _ => .error (.outside .wrongKind)
  | .str t =>
    match Naming.Case.ofLabel? t with
    | some case => .ok case
    | none => .error (.config (.unknownCase setting value))
  | _ => .error (.config (.unknownCase setting value))

/-- Numbers and truth values can be compared with one. -/
def isBelowOne : Json → Except Outside Bool
  | .int i => .ok (i < 1)
  | .bool b => .ok !b
  | .num f => .ok (f < 1)
  | _ => .error .wrongKind

def check (c : Config) : Except SetupError Settings := do
  let typeCase ← checkCase "type_case" c.typeCase
  let variantCase ← checkCase "variant_case" c.variantCase
  match isBelowOne c.indentSize with
  | .error o => throw (.outside o)
  | .ok true => throw (.config (.indentTooSmall c.indentSize))
  | .ok false => return ⟨c, typeCase, variantCase⟩

/-- The largest number of spaces that can be asked for. -/
def maxIndent : Int := Nat.pow 2 63 - 1

def spaces (size : Int) : Except Outside Text :=
  if size > maxIndent then .error .tooLarge else .ok (List.replicate size.toNat ' ')

/-- One unit of indentation. -/
def indentUnit (c : Config) : Except Outside Text :=
  if c.useTabs.truthy then .ok ['\t']
  else match c.indentSize with
    | .int i => spaces i
    | .bool b => spaces b.toInt
    | _ => .error .wrongKind

/-- A language specific setting; settings that are no object have no fields. -/
def setting? (c : Config) (key : Text) : Except Outside (Option Json) :=
  match c.custom with
  | .obj fields => .ok (Table.get? key fields)
  | _ => .error .missingOperation

end Config

end CatchAll
