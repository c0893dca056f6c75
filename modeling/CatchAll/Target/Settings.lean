import CatchAll.Config.Basic
import CatchAll.Target.Decoration

/-!
# Language specific settings

The decoration of generated types is taken from the language specific settings
of a configuration. A text given for a list of names stands for the list of
its characters.
-/

set_option autoImplicit false

namespace CatchAll.Target

open scoped Text

/-- The language specific settings; an empty value counts as none. -/
def customFields (c : Config) : Except SetupError Fields :=
  if c.custom.truthy then
    match c.custom with
    | .obj fields => .ok fields
    | _ => .error (.outside .missingOperation)
  else .ok []

/-- What a value lists. -/
def listed : Json → Except SetupError (List Json)
  | .arr items => .ok items
  | .str t => .ok (t.map fun c => .str [c])
  | .obj fields => .ok (fields.map fun field => .str field.1)
  | _ => .error (.outside .wrongKind)

/-- A list or an object cannot be looked up in a set of names. -/
def isKnown (known : List Text) : Json → Except SetupError Bool
  | .str t => .ok (t ∈ known)
  | .arr _ | .obj _ => .error (.outside .wrongKind)
  | _ => .ok false

def textsOf (values : List Json) : Except SetupError (List Text) :=
  values.mapM fun v =>
    match v with
    | .str t => .ok t
    | _ => .error (.outside .wrongKind)

/-- The names in a list, if all are known. -/
def knownNames (known : List Text) (complaint : List Text → ConfigError) (values : List Json) :
    Except SetupError (List Text) := do
  let flags ← values.mapM (isKnown known)
  let unknown := ((values.zip flags).filter fun pair => !pair.2).map (·.1)
  if unknown.isEmpty then textsOf values
  else throw (.config (complaint (← textsOf unknown)))

namespace Rust

def defaultDerives : List Text :=
  ["Clone", "Debug", "Eq", "Hash", "Ord", "PartialEq", "PartialOrd"]

def visibilities : List Text := ["pub", "pub(crate)"]

/-- The catch-all owns a text, so it cannot be copied; no variant is a default. -/
def impossibleDerives : List Text := ["Copy", "Default"]

def decorationOf (c : Config) : Except SetupError Decoration := do
  let custom ← customFields c
  let values ← match Table.get? "derives" custom with
    | some v => listed v
    | none => pure (defaultDerives.map .str)
  let visibility := (Table.get? "visibility" custom).getD (.str "pub")
  let derives ← knownNames (traitPaths.map (·.1)) .unknownDerives values
  match impossibleDerives.find? (· ∈ derives) with
  | some name => throw (.config (.deriveNotPossible name))
  | none =>
    if ← isKnown visibilities visibility then return .derives derives visibility.shown
    else throw (.config (.unknownVisibility visibility.shown))

end Rust

namespace Python

def decorationOf (c : Config) : Except SetupError Decoration := do
  let custom ← customFields c
  let values ← match Table.get? "decorators" custom with
    | some v => listed v
    | none => pure [.str "final"]
  return .decorators (← knownNames (decoratorImports.map (·.1)) .unknownDecorators values)

end Python

end CatchAll.Target
