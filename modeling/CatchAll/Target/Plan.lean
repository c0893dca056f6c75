import CatchAll.Naming.Members
import CatchAll.Target.Policy
import CatchAll.Target.Settings

/-!
# Plans

A plan holds all that generating code for a list of enums depends on: the
settings, the decoration of types, the policy, the words that names avoid and
the templates. It gives each enum its type name and its context.
-/

set_option autoImplicit false

namespace CatchAll.Target

open scoped Text
open Schema

structure Plan where
  language : Text
  settings : Settings
  decoration : Option Decoration
  policy : Policy
  vocabulary : Naming.Vocabulary
  memberVocabulary : Naming.Vocabulary
  docMark : Text
  shelf : Template.Shelf

namespace Plan

def config (p : Plan) : Config := p.settings.config

def module (p : Plan) : Json := p.config.moduleName

def layout (p : Plan) : Except Outside Layout := do
  return ⟨← p.config.indentUnit, p.docMark⟩

def surroundings (p : Plan) : Surroundings := ⟨p.module, p.layout, p.settings.variantCase⟩

def typeName (p : Plan) (name : Text) : Text := p.vocabulary.nameOf name p.settings.typeCase

def namedMembers (p : Plan) (d : Definition) : Except Outside (List Member) :=
  Naming.deriveMembers d.members (.ofVocabulary p.memberVocabulary) p.settings.variantCase
    p.policy.reserved

def contextOf (p : Plan) (d : Definition) : Except Outside Context := do
  return .ofMembers (p.typeName d.name) (← p.namedMembers d) p.decoration

def speaker : Text := "openenum.codegen.core.generator"

def unnamedNote (typeName value : Text) : Text :=
  "Member " ++ Text.quoted value ++ " of " ++ typeName ++
  " has no identifier; it is only reachable through the catch-all variant"

/-- The context of an enum that has a variant of its own for some member. -/
def buildContext (p : Plan) (d : Definition) : Emission Context := do
  let context ← Emission.ofOutside (p.contextOf d)
  if context.named.isEmpty then throw (.noUsableMember d.name)
  for m in context.unnamed do
    note .warning speaker (unnamedNote context.typeName m.value)
  return context

/-- Fills a template of the plan. -/
def fill (p : Plan) (name : Text) (values : Fields) : Emission Text :=
  Emission.ofTemplate (Template.renderNamed p.shelf name values)

/-- The language specific setting for the documentation of the module. -/
def moduleDocs (p : Plan) : Emission Json := do
  return (← Emission.ofOutside (p.config.setting? "module_docs")).getD .null

/-- The documentation of an item, if it is wanted and there is any. -/
def documentation? (p : Plan) (documentation : Json) : Option Json :=
  if p.config.addComments.truthy && documentation.truthy then some documentation else none

end Plan

end CatchAll.Target
