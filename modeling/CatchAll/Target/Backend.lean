import CatchAll.Target.PythonModule
import CatchAll.Target.RustModule

/-!
# Backends

A backend is a target language: how it plans a module from a configuration and
how it writes the parts of the module. The configuration is checked in two
steps, the language specific settings first.
-/

set_option autoImplicit false

namespace CatchAll.Target

open scoped Text
open Schema

structure Backend where
  language : Text
  extension : Text
  className : Text
  home : Text
  docMark : Text
  policy : Policy
  vocabulary : Naming.Vocabulary
  memberVocabulary : Naming.Vocabulary
  shelf : Template.Shelf
  decorationOf : Config → Except SetupError (Option Decoration)
  header : Plan → Emission Text
  footer : Plan → List Definition → Emission Text
  single : Plan → Definition → Emission Text
  moduleWarnings : Plan → Except Outside (List Text)

def Backend.plan (b : Backend) (config : Config) (policy : Policy) : Except SetupError Plan := do
  let decoration ← b.decorationOf config
  let settings ← config.check
  return {
    language := b.language
    settings
    decoration
    policy
    vocabulary := b.vocabulary
    memberVocabulary := b.memberVocabulary
    docMark := b.docMark
    shelf := b.shelf }

def Rust.backend : Backend where
  language := "rust"
  extension := ".rs"
  className := "RustGenerator"
  home := "openenum.codegen.languages.rust.generator"
  docMark := "///"
  policy := .rust
  vocabulary := Rust.vocabulary
  memberVocabulary := Rust.vocabulary
  shelf := Rust.shelf
  decorationOf c := do return some (← Rust.decorationOf c)
  header := Rust.header
  footer _ _ := return []
  single := Rust.single
  moduleWarnings := Rust.moduleWarnings

def Python.backend : Backend where
  language := "python"
  extension := ".py"
  className := "PythonGenerator"
  home := "openenum.codegen.languages.python.generator"
  docMark := []
  policy := .python
  vocabulary := Python.vocabulary
  memberVocabulary := Python.memberVocabulary
  shelf := Python.shelf
  decorationOf c := do return some (← Python.decorationOf c)
  header := Python.header
  footer := Python.footer
  single := Python.single
  moduleWarnings := Python.moduleWarnings

end CatchAll.Target
