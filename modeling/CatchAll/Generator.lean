import CatchAll.Target.Backend

/-!
# Generators

A generator is a backend with a plan. It writes one module for a list of enums:
header, enums, the definitions that they share, footer. A run starts with an
empty register, so earlier runs leave no trace. The text is tidied at the end.
-/

set_option autoImplicit false

namespace CatchAll

open scoped Text
open Schema Target

structure Generator where
  backend : Backend
  plan : Plan

namespace Generator

/-- A generator for a configuration, with the policy of the language unless another is given. -/
def ofConfig (b : Backend) (config : Config) (policy : Option Policy) :
    Except SetupError Generator := do
  return ⟨b, ← b.plan config (policy.getD b.policy)⟩

def module (g : Generator) : Json := g.plan.module

/-- The code of enums one after the other. -/
def singles (g : Generator) : List Definition → Emission (List Text)
  | [] => return []
  | d :: rest => do
    let part ← g.backend.single g.plan d
    return part :: (← g.singles rest)

/-- A part that is there. -/
def part (t : Text) : List Text := if t = [] then [] else [t]

def generate (g : Generator) (enums : List Definition) : Emission Text := do
  set ([] : Register)
  note .debug Plan.speaker
    ("Generating " ++ g.backend.language ++ " module " ++ g.module.shown ++ " with " ++
      Text.ofNat enums.length ++ " enums")
  let header ← g.backend.header g.plan
  let bodies ← g.singles enums
  let register ← getThe Register
  let footer ← g.backend.footer g.plan enums
  let parts := part header ++ bodies ++ register.definitions g.module.shown ++ part footer
  return Text.joinWith "\n\n" parts ++ "\n"

/-! ## Warnings -/

/-- The enum that last took a type name. -/
def lastWith (names : List (Text × Text)) (typeName : Text) : Option Text :=
  (names.reverse.find? (·.1 == typeName)).map (·.2)

def nameWarnings (before : List (Text × Text)) (typeName name : Text) : List Text :=
  (match lastWith before typeName with
    | some other =>
      ["Enums '" ++ other ++ "' and '" ++ name ++ "' both map to type " ++ typeName]
    | none => []) ++
  (if typeName = name then [] else ["Enum '" ++ name ++ "' renamed to " ++ typeName])

def memberWarnings (name : Text) (m : Member) : List Text :=
  (if m.identifier.isNone then
    ["Value " ++ Text.quoted m.value ++ " of " ++ name ++
      " has no identifier and is only representable through the catch-all variant"]
    else []) ++
  (if m.deprecated then
    ["Value " ++ Text.quoted m.value ++ " of " ++ name ++ " is deprecated"] else [])

def placeholderWarnings (name placeholder : Text) : List Text :=
  if placeholder = placeholderBase then []
  else ["Enum '" ++ name ++ "' already uses '" ++ placeholderBase ++
    "'; documentation example uses " ++ Text.quoted placeholder]

def enumWarnings (p : Plan) (before : List (Text × Text)) (d : Definition) :
    Except Outside (List Text) := do
  let typeName := p.typeName d.name
  let members ← p.namedMembers d
  return nameWarnings before typeName d.name ++ members.flatMap (memberWarnings d.name) ++
    placeholderWarnings d.name (p.policy.placeholder p.settings.variantCase members)

def enumsWarnings (p : Plan) (before : List (Text × Text)) :
    List Definition → Except Outside (List Text)
  | [] => .ok []
  | d :: rest => do
    let here ← enumWarnings p before d
    return here ++ (← enumsWarnings p (before ++ [(p.typeName d.name, d.name)]) rest)

def validate (g : Generator) (enums : List Definition) : Except Outside (List Text) := do
  let warnings ← enumsWarnings g.plan [] enums
  return warnings ++ (← g.backend.moduleWarnings g.plan)

/-! ## Tidy text -/

/-- Lines without blanks at the end, and never more than two empty lines in a row.
The count is that of the empty lines just before. -/
def tidyLines : Nat → List Text → List Text
  | _, [] => []
  | blanks, line :: rest =>
    let line := Text.stripEnd line
    if line = [] then
      if blanks < 2 then [] :: tidyLines (blanks + 1) rest else tidyLines (blanks + 1) rest
    else line :: tidyLines 0 rest

def withEnding (ending t : Text) : Text := t.flatMap fun c => if c = '\n' then ending else [c]

def format (g : Generator) (code : Text) : Except Outside Text :=
  let tidy := Text.unlines (tidyLines 0 (Text.lines code))
  match g.plan.config.lineEnding with
  | .str ending => .ok (withEnding ending tidy)
  | _ => .error .wrongKind

/-! ## Results -/

structure Metadata where
  language : Text
  extension : Text
  module : Json
  enumCount : Nat
  memberCount : Nat
  policy : Text

inductive Result where
  | success (code : Text) (warnings : List Text) (metadata : Metadata)
  | failed (failure : Failure)

namespace Result

/-- The module. A failed run has none. -/
def code : Result → Text
  | success code _ _ => code
  | failed _ => []

def failure? : Result → Option Failure
  | success _ _ _ => none
  | failed failure => some failure

def succeeded (result : Result) : Bool := result.failure?.isNone

end Result

def metadata (g : Generator) (enums : List Definition) : Metadata where
  language := g.backend.language
  extension := g.backend.extension
  module := g.module
  enumCount := enums.length
  memberCount := (enums.flatMap (·.members)).length
  policy := g.plan.policy.name

def attempt (g : Generator) (enums : List Definition) : Emission Result := do
  let warnings ← Emission.ofOutside (g.validate enums)
  let code ← g.generate enums
  let tidy ← Emission.ofOutside (g.format code)
  note .info Plan.speaker
    ("Generated " ++ Text.ofNat enums.length ++ " enums for " ++ g.backend.language)
  return .success tidy warnings (g.metadata enums)

/-- Generates and reports; a failure is a result of its own kind. -/
def run (g : Generator) (enums : List Definition) : StateT Register (StateM Journal) Result := do
  match ← (g.attempt enums).run with
  | .ok result => return result
  | .error failure =>
    noteFailure .error Plan.speaker Failure.headline failure.reason
    return .failed failure

end Generator

end CatchAll
