import CatchAll.Proofs.Command.Situation
import CatchAll.Proofs.Command.Work
import CatchAll.Proofs.Schema.SourceErrors

/-!
# Loading and generating on the command line

Step by step the command comes to what the library comes to, and leaves nothing but
records in its log. The log may be the file that is read: whether something is there
does not depend on what was recorded, so the input is loaded as the library loads it
from the files as they are by then.
-/

set_option autoImplicit false

namespace CatchAll.Command

open scoped Text
open Schema Outcome

/-! ## Loading -/

/-- Whether something is there does not depend on what files hold. -/
theorem findFile_sameShape {tree tree' : Files.Tree} (h : tree.SameShape tree')
    (path : Files.Path) : findFile tree' path = findFile tree path := by
  have hmissing : ∀ {why}, tree'.probe path = .missing why → tree.probe path = .missing why :=
    h.symm.missing
  rw [findFile, findFile]
  cases hprobe : tree.probe path with
  | missing why => rw [h.missing hprobe]
  | _ =>
    cases hprobe' : tree'.probe path with
    | missing why => cases hprobe.symm.trans (hmissing hprobe')
    | _ => rfl

theorem settled_find (tree : Files.Tree) (path : Files.Path) :
    Settled (findFile tree path) (findFile tree path).run.1 := by
  have hsettled : ∃ outcome, Settled (findFile tree path) outcome := by
    rw [findFile]
    refine exists_settled_bind ⟨_, settled_note _ _ _⟩ fun _ => ?_
    cases tree.probe path with
    | missing why => cases why <;> exact ⟨_, fun _ => rfl⟩
    | _ => cases path.isJson <;> exact ⟨_, fun _ => rfl⟩
  obtain ⟨outcome, h⟩ := hsettled
  exact h.eq_run ▸ h

theorem settled_found (tree : Files.Tree) (path : Files.Path) :
    Settled (loadFound tree path) (loadFound tree path).run.1 := by
  have hsettled : ∃ outcome, Settled (loadFound tree path) outcome := by
    refine exists_settled_bind ?_ fun v => exists_settled_bind ⟨_, settled_note _ _ _⟩ fun _ =>
      exists_settled_bind ?_ fun _ => ⟨_, settled_pure _⟩
    · cases tree.probe path with
      | missing why => exact ⟨_, settled_giveUp _ _ _⟩
      | directory => exact ⟨_, settled_giveUp _ _ _⟩
      | file bytes =>
        simp only [Schema.readFile]
        cases Files.decode bytes with
        | error o => exact ⟨_, settled_throw _⟩
        | ok t => exact ⟨_, settled_readJson (settled_giveUp _ _ _) t⟩
    · exact ⟨_, settled_requireObject _ v⟩
  obtain ⟨outcome, h⟩ := hsettled
  exact h.eq_run ▸ h

namespace Situation

variable {α : Type} {s : Situation} {world : World} (hopen : s.log.IsOpen s.files)

/-- The library loads the file that is found at first from what the log has left of it. -/
theorem loadFile_run (hopen : s.log.IsOpen s.files) :
    (Schema.loadFile s.filesAtInput s.request.file).run.1 =
      (findFile s.files (.ofText s.request.file)).run.1 >>= fun _ =>
        (loadFound s.filesAtInput (.ofText s.request.file)).run.1 := by
  have hfind : findFile s.filesAtInput (.ofText s.request.file) =
      findFile s.files (.ofText s.request.file) := findFile_sameShape (hopen.sameShape _) _
  have hsettled := (settled_find s.files (.ofText s.request.file)).bind fun _ _ =>
    settled_found s.filesAtInput (.ofText s.request.file)
  rw [Schema.loadFile, hfind]
  exact hsettled.eq_run.symm

end Situation

end CatchAll.Command
