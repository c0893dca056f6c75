import CatchAll.Target.Plan
import CatchAll.Target.RustTemplates

/-!
# Rust modules

The parts of a Rust module: its header and the code of one enum, the
declaration with its documentation followed by the implementations.
-/

set_option autoImplicit false

namespace CatchAll.Target.Rust

open scoped Text
open Schema

def speaker : Text := "openenum.codegen.languages.rust.generator"

def header (p : Plan) : Emission Text := do
  if p.config.addHeader.truthy then
    p.fill "module_header.rs.j2" [("module_docs", ← p.moduleDocs)]
  else return []

/-- The lines of a documentation; only texts have lines. -/
def docLines : Json → Except Outside Text
  | .str t => .ok t
  | .arr items =>
    if items.any fun item => item.text? = some ['\n'] then .error .wrongKind
    else .error .missingOperation
  | .obj fields =>
    if Table.has ['\n'] fields then .error .wrongKind else .error .missingOperation
  | _ => .error .wrongKind

def documentationText (p : Plan) (documentation : Json) : Except Outside (Option Text) :=
  match p.documentation? documentation with
  | some d => do return some (← docLines d)
  | none => .ok none

/-- The documentation of the schema, then that of the policy. -/
def enumDocs (layout : Layout) (documentation : Option Text) (policyDocs : Text) : Text :=
  let w := Writer.start layout
  let w := match documentation with
    | some t => if policyDocs = [] then w.docs t else (w.docs t).docs []
    | none => w
  (if policyDocs = [] then w else w.write policyDocs).render

def variantFields (layout : Layout) (documentation : Option Text) (m : Member) : Json :=
  .obj
    [("name", .str (m.identifier.getD [])),
     ("docs", .str (match documentation with
       | some t => ((Writer.start layout).docs t).render
       | none => [])),
     ("deprecated", .bool m.deprecated)]

def variant (p : Plan) (layout : Layout) (m : Member) : Except Outside Json := do
  return variantFields layout (← documentationText p m.documentation) m

def asStrArm (typeName : Text) (arm : Text × Text) : Text :=
  typeName ++ "::" ++ arm.1 ++ " => " ++ literal arm.2 ++ ","

def declaration (p : Plan) (d : Definition) (c : Context) : Emission Text := do
  let policyDocs ← p.policy.docs p.surroundings c
  let layout ← Emission.ofOutside p.layout
  let documentation ← Emission.ofOutside (documentationText p d.documentation)
  let metadata ← match c.decoration with
    | some decoration => Emission.ofOutside decoration.render
    | none => pure []
  let variants ← Emission.ofOutside (c.named.mapM (variant p layout))
  let members ← p.policy.members p.surroundings c
  p.fill "enum.rs.j2"
    [("docs", .str (enumDocs layout documentation policyDocs)),
     ("metadata", .str metadata),
     ("enum_name", .str c.typeName),
     ("variants", .arr variants),
     ("additional_members", .str members)]

def implementations (p : Plan) (c : Context) : Emission Text := do
  let fromImpl ← p.policy.fromImpl p.surroundings c
  let fromStrImpl ← p.policy.fromStrImpl p.surroundings c
  let catchAll ← p.policy.asStrArm p.surroundings c
  p.fill "enum_impl.rs.j2"
    [("enum_name", .str c.typeName),
     ("allow_deprecated", .bool (c.named.any (·.deprecated))),
     ("from_impl", .str fromImpl),
     ("from_str_impl", .str fromStrImpl),
     ("as_str_arms", Json.strings (c.arms.map (asStrArm c.typeName))),
     ("additional_as_str_arms", .str catchAll),
     ("values", Json.strings (c.values.map literal))]

def single (p : Plan) (d : Definition) : Emission Text := do
  let c ← p.buildContext d
  note .debug speaker
    ("Generating enum " ++ c.typeName ++ " (" ++ Text.ofNat c.members.length ++ " members)")
  let declared ← declaration p d c
  let implemented ← implementations p c
  return Text.joinWith "\n\n" [declared, implemented]

/-- What is wrong with the name of the module; an absent name is an empty one. -/
def moduleWarnings (p : Plan) : Except Outside (List Text) :=
  let warnings (name : Text) : List Text :=
    (moduleNameFaults name).map fun f => "Module name: " ++ f.message
  if p.module.truthy then
    match p.module with
    | .str name => .ok (warnings name)
    | _ => .error .missingOperation
  else .ok (warnings [])

end CatchAll.Target.Rust
