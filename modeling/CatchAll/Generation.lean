import CatchAll.Registry
import CatchAll.Schema.Document

/-!
# From documents to code

Reads the enums of a schema document and generates the module for them. A
document that cannot be read comes before a language that is not there.
-/

set_option autoImplicit false

namespace CatchAll

open scoped Text
open Schema Target

inductive GenerationError where
  | schema (e : SchemaError)
  | registry (e : RegistryError)

namespace Generation

def defaultLanguage : Text := "rust"

/-- A run of a fresh generator. -/
def runGenerator (g : Generator) (enums : List Definition) : StateM Journal Generator.Result := do
  return ((← (g.run enums).run []) : Generator.Result × Register).1

/-- The module for a document. -/
def ofDocument (r : Registry) (tree : Files.Tree) (document : Json) (language : Text)
    (source : ConfigSource) : Journaled GenerationError Generator.Result := do
  let enums ← (Schema.load document).adapt .schema
  let g ← (r.create tree language source).adapt .registry
  (runGenerator g enums : StateM Journal Generator.Result)

end Generation

end CatchAll
