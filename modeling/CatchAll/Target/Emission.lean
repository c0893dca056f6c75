import CatchAll.Inline
import CatchAll.Json.Shown
import CatchAll.Template.Engine

/-!
# Emission

Emitting code may ask for the wrapper type that all enums of a module share,
and may fail. The register of shared definitions and the journal outlive a
failure.
-/

set_option autoImplicit false

namespace CatchAll.Target

open scoped Text

inductive Failure where
  | noUsableMember (enum : Text)
  | unsupportedPolicy (language policy : Text)
  | template (e : Template.TemplateError)
  | outside (o : Outside)

namespace Failure

/-- The text of a failure that the library describes. -/
def message? : Failure → Option Text
  | noUsableMember enum => some ("Enum '" ++ enum ++ "' has no member with a usable identifier")
  | unsupportedPolicy language policy =>
    some (language ++ " generator does not support policy " ++ policy)
  | template e => some e.message
  | outside _ => none

def reason : Failure → Reason
  | outside o => .outside o
  | template e =>
    match e.fault.outside? with
    | some o => .wrapped e.message o
    | none => .text e.message
  | f => .text (f.message?.getD [])

/-- The headline of a failed run. -/
def headline : Text := "Code generation failed"

/-- What a failed run reports, if the failure can be described. -/
def report? (f : Failure) : Option Text := f.message?.map fun m => headline ++ ": " ++ m

end Failure

abbrev Emission := ExceptT Failure (StateT Register (StateM Journal))

namespace Emission

def run {α : Type} (work : Emission α) (register : Register) (journal : Journal) :
    (Except Failure α × Register) × Journal :=
  StateT.run (StateT.run work register) journal

def ofOutside {α : Type} : Except Outside α → Emission α
  | .ok a => pure a
  | .error o => throw (.outside o)

def ofTemplate {α : Type} : Except Template.TemplateError α → Emission α
  | .ok a => pure a
  | .error e => throw (.template e)

end Emission

/-- The variant that keeps values the schema did not know. -/
def catchAllName : Text := "Unknown"

/-- The type of what the catch-all variant holds. -/
def wrapperName : Text := "UnknownVariantValue"

/-- A module is known by the text that shows its name; lists and objects are no names. -/
def moduleKey : Json → Except Outside Text
  | .arr _ | .obj _ => .error .wrongKind
  | name => .ok name.shown

/-- The path of the wrapper; an absent module name has no part in it. -/
def wrapperPath (module : Json) : Except Outside Text :=
  if module.truthy then
    match module with
    | .str name => .ok (TypeReference.qualified ⟨wrapperName, name⟩ "::" "crate")
    | _ => .error .wrongKind
  else .ok (TypeReference.qualified ⟨wrapperName, []⟩ "::" "crate")

def inlineSpeaker : Text := "openenum.codegen.core.inline"

/-- Makes sure that the module has the wrapper; the first request gives its source. -/
def requestWrapper (module : Json) (source : Unit → Except Outside Text) : Emission Unit := do
  let key ← Emission.ofOutside (moduleKey module)
  let register ← getThe Register
  let (register, isNew) ← Emission.ofOutside (register.getOrDefine key wrapperName source)
  if isNew then
    set register
    note .debug inlineSpeaker
      ("Registered inline definition " ++ wrapperName ++ " in " ++ module.shown)

end CatchAll.Target
