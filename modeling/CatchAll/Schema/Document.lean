import CatchAll.Journal
import CatchAll.Json.Shown
import CatchAll.Schema.Member

/-!
# Schema documents

A document maps type names to enums under `enums`. An enum is a list of
members or an object with such a list; a member is a value or an object with
one. The first fault in the order of the type names is the one reported.
-/

set_option autoImplicit false

namespace CatchAll.Schema

open scoped Text

inductive SchemaError where
  | notAnObject
  | noEnums
  | enumsNotAnObject
  | entryKind (typeName kind : Text)
  | noMemberList (typeName : Text)
  | membersNotAList (typeName : Text)
  | memberKind (typeName kind : Text)
  | memberWithoutValue (typeName : Text) (raw : Json)
  | valueNotText (typeName : Text) (value : Json)
  | duplicateValue (typeName value : Text)
  | noMembers (typeName : Text)

def SchemaError.message : SchemaError → Text
  | notAnObject => "Schema document must be a JSON object"
  | noEnums => "Schema document has no 'enums' section"
  | enumsNotAnObject => "'enums' must map type names to enum definitions"
  | entryKind t kind => "Enum '" ++ t ++ "' must be a list or object, got " ++ kind
  | noMemberList t => "Enum '" ++ t ++ "' is missing 'members'"
  | membersNotAList t => "Enum '" ++ t ++ "' members must be a list"
  | memberKind t kind => "Enum '" ++ t ++ "' member must be a string or object, got " ++ kind
  | memberWithoutValue t raw => "Enum '" ++ t ++ "' member is missing 'value': " ++ raw.quoted
  | valueNotText t value => "Enum '" ++ t ++ "' has a non-string value: " ++ value.quoted
  | duplicateValue t value => "Enum '" ++ t ++ "' has duplicate value: " ++ Text.quoted value
  | noMembers t => "Enum '" ++ t ++ "' has no members"

/-- Values one after the other: each a text that did not occur before. -/
def checkDistinct (typeName : Text) (seen : List Text) : List Json → Except SchemaError Unit
  | [] => .ok ()
  | .str value :: rest =>
    if value ∈ seen then .error (.duplicateValue typeName value)
    else checkDistinct typeName (value :: seen) rest
  | value :: _ => .error (.valueNotText typeName value)

/-- Distinct texts, and at least one. -/
def checkValues (typeName : Text) (values : List Json) : Except SchemaError Unit := do
  checkDistinct typeName [] values
  if values.isEmpty then throw (.noMembers typeName)

def Member.ofFields (typeName : Text) (fields : Fields) : Except SchemaError Member :=
  match Table.get? "value" fields with
  | none => .error (.memberWithoutValue typeName (.obj fields))
  | some (.str value) =>
    .ok {
      value
      name := (Table.get? "name" fields).getD .null
      documentation := (Table.get? "documentation" fields).getD .null
      deprecated := (Table.get? "deprecated" fields).any Json.truthy
      identifier := none }
  | some value => .error (.valueNotText typeName value)

def Member.ofJson (typeName : Text) : Json → Except SchemaError Member
  | .str value => .ok (Member.ofValue value)
  | .obj fields => Member.ofFields typeName fields
  | raw => .error (.memberKind typeName raw.kind)

/-- The member list of an enum and its documentation. -/
def rawMembers (typeName : Text) : Json → Except SchemaError (List Json × Json)
  | .arr raw => .ok (raw, .null)
  | .obj fields =>
    match Table.get? "members" fields with
    | none => .error (.noMemberList typeName)
    | some (.arr raw) => .ok (raw, (Table.get? "documentation" fields).getD .null)
    | some _ => .error (.membersNotAList typeName)
  | entry => .error (.entryKind typeName entry.kind)

def Definition.ofJson (typeName : Text) (entry : Json) : Except SchemaError Definition := do
  let (raw, documentation) ← rawMembers typeName entry
  let members ← raw.mapM (Member.ofJson typeName)
  checkValues typeName (members.map fun m => .str m.value)
  return ⟨typeName, members, documentation⟩

/-- The entries under `enums`. -/
def entriesOf (document : Json) : Except SchemaError Fields :=
  match document with
  | .obj fields =>
    match Table.get? "enums" fields with
    | none | some .null => .error .noEnums
    | some (.obj entries) => .ok entries
    | some _ => .error .enumsNotAnObject
  | _ => .error .notAnObject

def sortedEntries (entries : Fields) : Fields :=
  entries.mergeSort fun a b => Text.le a.1 b.1

def speaker : Text := "openenum.codegen.core.model"

/-- Reads the entries one by one, with a record for each enum. -/
def loadEntries : Fields → Journaled SchemaError (List Definition)
  | [] => return []
  | (name, entry) :: rest => do
    let definition ← (Definition.ofJson name entry : Except SchemaError Definition)
    note .debug speaker
      ("Loaded enum " ++ name ++ " with " ++ Text.ofNat definition.members.length ++ " members")
    return definition :: (← loadEntries rest)

def load (document : Json) : Journaled SchemaError (List Definition) := do
  let entries ← (entriesOf document : Except SchemaError Fields)
  if entries.isEmpty then note .warning speaker "Schema document defines no enums"
  loadEntries (sortedEntries entries)

end CatchAll.Schema
