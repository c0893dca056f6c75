import CatchAll.Config.Merge
import CatchAll.Proofs.Outcome

/-!
# The stages of resolving

Resolving reads the file and puts it over the defaults. The rest is the same with a
file and without one, and it does not touch the journal: the overrides go over what
there is, the settings are gathered, and the configuration is checked.
-/

set_option autoImplicit false

namespace CatchAll.Config

open scoped Text
open Outcome

/-- What is left once the file has been merged. -/
def completed (overrides base : Fields) : Except SetupError Config :=
  ofOutside (merge base overrides >>= gather) >>= fun fields =>
    (ofFields fields).check >>= fun _ => .ok (ofFields fields)

/-- The defaults with the file over them. -/
def underlying (tree : Files.Tree) (language file : Text) : Journaled SetupError Fields :=
  if file = [] then pure (defaults language)
  else do
    let fields ← loadFile tree file
    (ofOutside (merge (defaults language) fields) : Except SetupError Fields)

theorem ofOutside_bind {α β : Type} (work : Except Outside α) (next : α → Except Outside β) :
    ofOutside (work >>= next) = ofOutside work >>= fun a => ofOutside (next a) := by
  cases work <;> rfl

theorem resolve_eq (tree : Files.Tree) (language file : Text) (overrides : Fields) :
    resolve tree language overrides file =
      underlying tree language file >>= fun base =>
        (completed overrides base : Except SetupError Config) := by
  have hrest (base : Fields) : (do
      let merged ← (ofOutside (merge base overrides) : Except SetupError Fields)
      let fields ← (ofOutside (gather merged) : Except SetupError Fields)
      let config := ofFields fields
      let _ ← (config.check : Except SetupError Settings)
      return config : Journaled SetupError Config) =
      (completed overrides base : Except SetupError Config) := by
    rw [completed, ofOutside_bind]
    simp only [liftM_bind, bind_assoc]
    rfl
  rw [resolve, underlying]
  split_ifs
  · exact hrest (defaults language)
  · rw [bind_assoc]
    simp only [hrest]

end CatchAll.Config
