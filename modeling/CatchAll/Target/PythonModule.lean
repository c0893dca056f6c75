import CatchAll.Target.Plan
import CatchAll.Target.PythonTemplates
import CatchAll.Text.Identifier

/-!
# Python modules

The parts of a Python module: header with imports, the class of one enum and
the list of exported names. Documentation is made safe for the strings it is
put into; the documentation of a member is joined to one line.
-/

set_option autoImplicit false

namespace CatchAll.Target.Python

open scoped Text
open Schema

def speaker : Text := "openenum.codegen.languages.python.generator"

/-- The text of a documentation; nothing else can be trimmed or cut. -/
def textOnly : Json → Except Outside Text
  | .str t => .ok t
  | _ => .error .missingOperation

def safeText (documentation : Json) : Except Outside Json := do
  return .str (docstring (← textOnly documentation))

def imports (p : Plan) : Except Outside (List Text) := do
  let names ← match p.decoration with
    | some (.decorators names) => decoratorNames names
    | _ => .ok []
  return Text.sort (Text.distinct ("ClassVar" :: names))

def header (p : Plan) : Emission Text := do
  let names ← Emission.ofOutside (imports p)
  let docs ← if p.config.addHeader.truthy then p.moduleDocs else pure .null
  let docs ← if docs.truthy then Emission.ofOutside (safeText docs) else pure .null
  p.fill "module_header.py.j2"
    [("add_header", p.config.addHeader),
     ("module_docs", docs),
     ("typing_imports", Json.strings names)]

/-- Exported are the enums and, if the module has it, the wrapper. -/
def footer (p : Plan) (enums : List Definition) : Emission Text := do
  let names := enums.map fun d => p.typeName d.name
  let register ← getThe Register
  let key ← Emission.ofOutside (moduleKey p.module)
  let exports := if register.isDefined key wrapperName then names ++ [wrapperName] else names
  p.fill "footer.py.j2" [("exports", Json.strings exports)]

def defaultSummary : Text := "String enum that tolerates values added after generation."

def documentationText (p : Plan) (documentation : Json) : Except Outside (Option Text) :=
  match p.documentation? documentation with
  | some d => do return some (← textOnly d)
  | none => .ok none

/-- The first line of a documentation. -/
def summary (documentation : Option Text) : Text :=
  match documentation with
  | some t => docstring ((Text.lines (Text.strip t)).head?.getD [])
  | none => defaultSummary

/-- What follows the first line of a documentation. -/
def remainder (documentation : Option Text) : Text :=
  match documentation with
  | some t => Text.strip (Text.unlines ((Text.lines (Text.strip t)).drop 1))
  | none => []

def classDocs (layout : Layout) (documentation : Option Text) (policyDocs : Text) : Text :=
  let rest := remainder documentation
  let w := Writer.start layout
  let w := if rest = [] then w
    else if policyDocs = [] then w.docs (docstring rest)
    else (w.docs (docstring rest)).docs []
  (if policyDocs = [] then w else w.write policyDocs).render

/-- The documentation of a member in one line, with a word before it if it is deprecated. -/
def memberDocs (documentation : Option Text) (deprecated : Bool) : Text :=
  let line := match documentation with
    | some t => Text.joinWith " " (Text.words t)
    | none => []
  let line := if deprecated then Text.strip ("Deprecated. " ++ line) else line
  if line = [] then [] else docstring line

def variantFields (documentation : Option Text) (m : Member) : Json :=
  let name := m.identifier.getD []
  .obj
    [("name", .str name),
     ("name_literal", .str (literal name)),
     ("value", .str (literal m.value)),
     ("docs", .str (memberDocs documentation m.deprecated))]

def variant (p : Plan) (m : Member) : Except Outside Json := do
  return variantFields (← documentationText p m.documentation) m

def classText (p : Plan) (d : Definition) (c : Context) : Emission Text := do
  let metadata ← match c.decoration with
    | some decoration => Emission.ofOutside decoration.render
    | none => pure []
  let documentation ← Emission.ofOutside (documentationText p d.documentation)
  let policyDocs ← p.policy.docs p.surroundings c
  let layout ← Emission.ofOutside p.layout
  let variants ← Emission.ofOutside (c.named.mapM (variant p))
  let members ← p.policy.members p.surroundings c
  let fromImpl ← p.policy.fromImpl p.surroundings c
  let fromStrImpl ← p.policy.fromStrImpl p.surroundings c
  let arms ← p.policy.asStrArm p.surroundings c
  p.fill "class.py.j2"
    [("metadata", .str metadata),
     ("enum_name", .str c.typeName),
     ("summary", .str (summary documentation)),
     ("docs", .str (classDocs layout documentation policyDocs)),
     ("variants", .arr variants),
     ("unknown_value", .str wrapperName),
     ("unknown_variant", .str catchAllName),
     ("additional_members", .str members),
     ("from_impl", .str fromImpl),
     ("from_str_impl", .str fromStrImpl),
     ("additional_as_str_arms", .str arms),
     ("values", Json.strings (c.values.map literal))]

/-- Only the policy of this language emits code that fits the class. -/
def single (p : Plan) (d : Definition) : Emission Text := do
  let c ← p.buildContext d
  note .debug speaker
    ("Generating class " ++ c.typeName ++ " (" ++ Text.ofNat c.members.length ++ " members)")
  match p.policy with
  | .python => classText p d c
  | other => throw (.unsupportedPolicy "Python" other.name)

def moduleWarnings (p : Plan) : Except Outside (List Text) :=
  match p.module with
  | .str name =>
    if Text.isIdentifier name then .ok []
    else .ok ["Module name: '" ++ name ++ "' is not a valid identifier"]
  | _ => .error .missingOperation

end CatchAll.Target.Python
