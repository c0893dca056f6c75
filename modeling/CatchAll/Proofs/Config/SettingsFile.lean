import CatchAll.Config.Merge
import CatchAll.Proofs.Files.Path
import CatchAll.Proofs.Schema.SourceErrors

/-!
# Files of settings

A file of settings has to be there, to have the right suffix, and to hold an object.
Every path falls under one of three heads: it has settings, it has none and an error
says why, or the failure goes past the errors.
-/

set_option autoImplicit false

namespace CatchAll.Config

open scoped Text
open Outcome

section

variable {tree : Files.Tree} {path : Files.Path}

/-- Why a file has no settings. -/
inductive FileFault (tree : Files.Tree) (path : Files.Path) : ConfigError → Prop
  | missing {why : Outside} (hprobe : tree.probe path = .missing why) (hname : why ≠ .nameTooLong) :
      FileFault tree path (.fileNotFound path.text)
  | notJson (hfound : ∀ why, tree.probe path ≠ .missing why) (hsuffix : path.isJson = false) :
      FileFault tree path (.fileNotJson path.text)
  | directory (hsuffix : path.isJson = true) (hprobe : tree.probe path = .directory) :
      FileFault tree path (.unreadable path.text .isDirectory)
  | malformed {t : Text} (hsuffix : path.isJson = true) (ht : Schema.Holds tree path t)
      (hread : Json.read t = .error .malformed) : FileFault tree path (.invalidJson path.text)
  | notAnObject {t : Text} {v : Json} (hsuffix : path.isJson = true)
      (ht : Schema.Holds tree path t) (hread : Json.read t = .ok v)
      (hobject : ∀ fields, v ≠ .obj fields) : FileFault tree path (.notAnObject path.text)

/-- What goes past the errors for files. -/
inductive FileEscape (tree : Files.Tree) (path : Files.Path) : Outside → Prop
  | nameTooLong (hprobe : tree.probe path = .missing .nameTooLong) :
      FileEscape tree path .nameTooLong
  | undecodable {bytes : ByteArray} (hsuffix : path.isJson = true)
      (hprobe : tree.probe path = .file bytes) (hbytes : ∀ t, Files.decode bytes ≠ .ok t) :
      FileEscape tree path .undecodable
  | text {t : Text} {o : Outside} (hsuffix : path.isJson = true) (ht : Schema.Holds tree path t)
      (hescape : Schema.TextEscape t o) : FileEscape tree path o

/-- The value in a text of settings. -/
def valueOf (path : Files.Path) (t : Text) : Except SetupError Json :=
  match Json.read t with
  | .ok v => .ok v
  | .error .malformed => .error (.config (.invalidJson path.text))
  | .error .numberTooLong => .error (.outside .badValue)
  | .error .tooDeep => .error (.outside .tooDeep)

end

end CatchAll.Config
