import CatchAll.Proofs.Command.Loading

/-!
# The command line and the library

A generation from the command line does what the library does: it loads the input,
resolves the configuration and generates. It succeeds exactly when these do, what it
writes is the code that they come to, and a run that does not succeed writes nothing.
-/

set_option autoImplicit false

namespace CatchAll.Command

open scoped Text

namespace Situation

variable {α : Type} {s : Situation} {world : World}

/-! ## Messages -/

/-- How a run closes: with code that was delivered, with nothing, or broken off. -/
inductive Closes (s : Situation) : Except Stop Nat → World → Prop
  | done {code : Text} {world : World} (h : s.Succeeds code)
      (hworld : s.Delivered s.files code world) : Closes s (.ok 0) world
  | refused {world : World} (h : ∀ code, ¬ s.Succeeds code) (hworld : s.Quiet world) :
      Closes s (.ok 1) world
  | interrupted {stop : Stop} {world : World} (h : s.Interrupted stop) :
      Closes s (.error stop) world

section

variable {code : Text} {warnings : List Text} {m : Generator.Metadata} {kept : World → Prop}

theorem Delivered.place (h : s.Delivered s.files code world) (houtput : s.request.output ≠ []) :
    ∃ place, s.place = .ok place := by
  cases h with
  | printed hnone => exact absurd hnone houtput
  | saved _ hplace => exact ⟨_, hplace⟩

end

/-- How a run closes before complaints are looked at. -/
inductive Answers (s : Situation) : Except Stop Nat → World → Prop
  | complains {t : Text} {world : World} (hquiet : s.Quiet world)
      (hsupported : Registry.builtin.isSupported s.language = true)
      (h : s.decided = .error (.complaint t)) : Answers s (.error (.complaint t)) world
  | closes {result : Except Stop Nat} {world : World} (h : s.Closes result world) :
      Answers s result world

end Situation

end CatchAll.Command
