import CatchAll.Proofs.Config.Checking
import CatchAll.Proofs.Config.Precedence
import CatchAll.Proofs.Config.SettingsFile

/-!
# What resolving a configuration comes to

A configuration that is returned passes its check. A missing or malformed file, a
naming case that does not exist and an indentation below one are reported as errors
of a configuration. Values of the wrong kind go past these errors: a list for a
naming case, an indentation that cannot be compared, a `custom` that no settings can
be put under. They are listed here stage by stage, and nothing else goes past.
-/

set_option autoImplicit false

namespace CatchAll.Config

open scoped Text
open Outcome

/-! ## Putting the sources together -/

section

variable {new base : Fields} {old : Json}

/-- An object cannot be combined with something that is no object. -/
def Clash (new : Option Json) (old : Json) : Prop :=
  (∃ fields, new = some (.obj fields)) ∧ ∀ fields, old ≠ .obj fields

/-- What stands under `custom` once a source has been put over another one. -/
def combined (new : Option Json) (old : Json) : Json :=
  match new, old with
  | some (.obj new), .obj old => .obj (Table.putAll new old)
  | some new, _ => new
  | none, old => old

end

/-- The fields that are no settings of their own; they go under `custom`. -/
def special (fields : Fields) : Fields := fields.filter fun field => !isSetting field.1

section

variable {merged : Fields} {v : Json}

/-- Gathering leaves the settings that are no special ones. -/
def Keeps (merged fields : Fields) : Prop :=
  ∀ key ≠ "custom".toList, isSetting key = true → Table.get? key fields = Table.get? key merged

end

/-- What the defaults and a file have under `custom`. -/
def customBelow (language : Text) (stored : Fields) : Json :=
  combined (Table.get? "custom" stored) (.obj (inner (defaults language)))

def customOf (language : Text) (stored overrides : Fields) : Json :=
  combined (Table.get? "custom" overrides) (customBelow language stored)

/-- Whether some field has to be put under `custom`. -/
def HasSpecial (stored overrides : Fields) : Prop :=
  ∃ key, (outer? overrides key).isSome = true ∨ (outer? stored key).isSome = true

/-- The value of a setting: the overrides come first, then the file, the defaults of the
language and the standard. -/
def chosen (language : Text) (stored overrides : Fields) (key : Text) : Json :=
  ((Table.get? key overrides).or ((Table.get? key stored).or
    ((Table.get? key (defaults language)).or (Table.get? key (named standard))))).getD .null

/-- The sources can be put together. -/
structure Assembles (language : Text) (stored overrides : Fields) : Prop where
  combine : ¬ Clash (Table.get? "custom" overrides) (customBelow language stored)
  gather : HasSpecial stored overrides →
    ∃ fields, fieldsOf (customOf language stored overrides) = .ok fields

/-- Why the sources cannot be put together. -/
inductive AssemblyEscape (language : Text) (stored overrides : Fields) : Outside → Prop
  | combine (hclash : Clash (Table.get? "custom" overrides) (customBelow language stored)) :
      AssemblyEscape language stored overrides .missingOperation
  | gather {o : Outside}
      (hcombine : ¬ Clash (Table.get? "custom" overrides) (customBelow language stored))
      (hspecial : HasSpecial stored overrides)
      (hfields : fieldsOf (customOf language stored overrides) = .error o) :
      AssemblyEscape language stored overrides o

section

variable {language : Text} {stored overrides : Fields}

end

/-! ## The whole resolution -/

/-- What an error of a configuration is about: its file or a setting in it. -/
inductive Fault (tree : Files.Tree) (language : Text) (overrides : Fields) (file : Text) :
    ConfigError → Prop
  | file {e : ConfigError} (hname : file ≠ []) (hfile : FileFault tree (.ofText file) e) :
      Fault tree language overrides file e
  | check {stored : Fields} {e : ConfigError} (hfile : FileGives tree file stored)
      (hassembles : Assembles language stored overrides)
      (hcheck : CheckFault (chosen language stored overrides) e) :
      Fault tree language overrides file e

/-- What goes past the errors of a configuration. -/
inductive Escape (tree : Files.Tree) (language : Text) (overrides : Fields) (file : Text) :
    Outside → Prop
  | file {o : Outside} (hname : file ≠ []) (hfile : FileEscape tree (.ofText file) o) :
      Escape tree language overrides file o
  | assembly {stored : Fields} {o : Outside} (hfile : FileGives tree file stored)
      (hassembly : AssemblyEscape language stored overrides o) :
      Escape tree language overrides file o
  | check {stored : Fields} {o : Outside} (hfile : FileGives tree file stored)
      (hassembles : Assembles language stored overrides)
      (hcheck : CheckEscape (chosen language stored overrides) o) :
      Escape tree language overrides file o

/-- What resolving comes to: a valid configuration, an error for one of the faults, or one
of the failures that escape. -/
structure Resolves (outcome : Except SetupError Config) (fault : ConfigError → Prop)
    (escape : Outside → Prop) : Prop where
  gives : ∀ config, outcome = .ok config → Valid config
  reports : ∀ e, outcome = .error (.config e) ↔ fault e
  escapes : ∀ o, outcome = .error (.outside o) ↔ escape o

theorem Resolves.of_cases {outcome : Except SetupError Config} {fault : ConfigError → Prop}
    {escape : Outside → Prop} (hfault : ∀ e, fault e → outcome = .error (.config e))
    (hescape : ∀ o, escape o → outcome = .error (.outside o))
    (hcases : (∃ config, outcome = .ok config ∧ Valid config) ∨ (∃ e, fault e) ∨ ∃ o, escape o) :
    Resolves outcome fault escape := by
  obtain ⟨config, rfl, hvalid⟩ | ⟨e, he⟩ | ⟨o, ho⟩ := hcases
  · refine ⟨fun c hc => ?_, fun e => ⟨nofun, hfault e⟩, fun o => ⟨nofun, hescape o⟩⟩
    cases hc
    exact hvalid
  · obtain rfl := hfault e he
    refine ⟨nofun, fun e' => ⟨fun h => ?_, hfault e'⟩, fun o => ⟨nofun, hescape o⟩⟩
    cases h
    exact he
  · obtain rfl := hescape o ho
    refine ⟨nofun, fun e => ⟨nofun, hfault e⟩, fun o' => ⟨fun h => ?_, hescape o'⟩⟩
    cases h
    exact ho

section

variable {tree : Files.Tree} {language file : Text} {stored overrides : Fields}

end

end CatchAll.Config
