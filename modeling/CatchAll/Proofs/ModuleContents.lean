import CatchAll.Proofs.Target.PythonExports
import CatchAll.Proofs.Target.RustTypes

/-!
# What a module has in it

Besides a header and a footer a module has the code of its enums in their order and, if
there is an enum, the wrapper, which each enum names. These are all the types that are
declared, and a Python module exports the classes that it declares.
-/

set_option autoImplicit false

namespace CatchAll.Generator

open scoped Text
open Schema Target Emission

/-- What holds of the parts of a module and of what is read from it, in the language of its
generator. -/
inductive Assembly.Coherent (g : Generator) (name : Text) (enums : List Definition) (code : Text)
    (a : Assembly) : Prop
  | rust (language : g.backend = Rust.backend)
      (named : List.Forall₂ (fun d body => Rust.NamesWrapper name (g.plan.typeName d.name) body)
        enums a.bodies)
      (footer : a.footer = [])
      (types : Rust.readTypes code =
        typeNames g.plan enums ++ (if enums = [] then [] else [wrapperName]))
  | python (language : g.backend = Python.backend)
      (named : List.Forall₂ (fun _ body => Python.NamesWrapper body) enums a.bodies)
      (header : a.header ≠ []) (footer : a.footer ≠ [])
      (classes : Python.readClasses code =
        typeNames g.plan enums ++ (if enums = [] then [] else [wrapperName]))
      (exports : Python.readExports code = some (Python.readClasses code))

variable {b : Backend} {config : Config} {g : Generator} {name : Text} {enums : List Definition}
  {code : Text} {register register' : Register} {j j' : Journal}

/-- For every configuration with an identifier for the name of the module: whenever a module is
generated it is the code of its parts, among them one definition of the wrapper if there is an
enum and none if there is none. Every enum names the wrapper of this module, and what is
exported is what is declared. -/
theorem module_contents (hb : b.IsNative) (hg : Generator.ofConfig b config none = .ok g)
    (hmodule : config.moduleName = .str name) (hname : Text.isIdentifier name = true)
    (h : (g.generate enums).run register j = ((.ok code, register'), j')) :
    ∃ a : Assembly, a.Of g enums code ∧
      (if enums = [] then a.shared.definitions g.module.shown = []
        else ∃ source, g.plan.Wraps source ∧ a.shared.definitions g.module.shown = [source]) ∧
      a.Coherent g name enums code := by
  obtain ⟨hbackend, hp⟩ := ofConfig_ok hg
  obtain ⟨backend, p⟩ := g
  obtain rfl : backend = b := hbackend
  have hplan : p.module = .str name := by rw [Plan.module, hp.config_eq, hmodule]
  obtain ⟨a, ha⟩ := exists_assembly hb hp h
  refine ⟨a, ha, ha.shared.definitions, ?_⟩
  rcases hb with rfl | rfl
  · obtain ⟨hfooter, htypes⟩ := ha.declares_types hp
    exact .rust rfl (ha.bodies.imp fun d body => Rust.namesWrapper_single hp hplan hname) hfooter
      htypes
  · obtain ⟨hheader, hfooter, hclasses, hexports⟩ := ha.exports_classes hp
    exact .python rfl (ha.bodies.imp fun d body => Python.namesWrapper_single hp) hheader hfooter
      hclasses hexports

/-- A list of enums with a value each. -/
def levels : List Definition := [oneValued "level" "low", oneValued "Log-Level" "info"]

/-- What is declared for these enums, in the two languages. -/
theorem levels_declared :
    (∃ g code register j, Generator.ofConfig Rust.backend .standard none = .ok g ∧
      (g.generate levels).run [] #[] = ((.ok code, register), j) ∧
      Rust.readTypes code = ["Level", "LogLevel", "UnknownVariantValue"].map String.toList) ∧
    ∃ g code register j, Generator.ofConfig Python.backend .standard none = .ok g ∧
      (g.generate levels).run [] #[] = ((.ok code, register), j) ∧
      Python.readExports code =
        some (["Level", "LogLevel", "UnknownVariantValue"].map String.toList) := by
  have hidentifier : Text.isIdentifier "types" = true := by decide +kernel
  have hsome : levels ≠ [] := List.cons_ne_nil _ _
  have hplain : ∀ d ∈ levels, d.IsPlain ∧ ∃ m ∈ d.members, m.hasLetter = true := by
    have hone (name : Text) {value : Text} (h : (Member.ofValue value).hasLetter = true) :
        (oneValued name value).IsPlain ∧ ∃ m ∈ (oneValued name value).members, m.hasLetter = true :=
      ⟨Definition.isPlain_of_values (fun m hm => ⟨value, List.mem_singleton.mp hm⟩) rfl,
        .ofValue value, List.mem_singleton_self _, h⟩
    simp only [levels, List.forall_mem_cons]
    exact ⟨hone _ (by decide), hone _ (by decide), List.forall_mem_nil _⟩
  constructor
  · obtain ⟨g, hg, hnames⟩ : ∃ g, Generator.ofConfig Rust.backend .standard none = .ok g ∧
        typeNames g.plan levels = ["Level", "LogLevel"].map String.toList := ⟨_, rfl, by decide⟩
    obtain ⟨hbackend, hp⟩ := ofConfig_ok hg
    obtain ⟨code, register, j, hrun⟩ := (ready_rust hg presentable_standard fun d hd =>
      Rust.emittable_of_isPlain hp Config.canWrite_standard (hplain d hd).1
        (hplain d hd).2).generate [] #[]
    obtain ⟨a, -, -, hcoherent⟩ := module_contents (.inl rfl) hg rfl hidentifier hrun
    refine ⟨g, code, register, j, hg, hrun, ?_⟩
    cases hcoherent with
    | rust _ _ _ htypes =>
      rw [htypes, hnames, if_neg hsome]
      rfl
    | python hlanguage =>
      exact absurd (congrArg Backend.language (hbackend.symm.trans hlanguage)) (by decide)
  · obtain ⟨g, hg, hnames⟩ : ∃ g, Generator.ofConfig Python.backend .standard none = .ok g ∧
        typeNames g.plan levels = ["Level", "LogLevel"].map String.toList := ⟨_, rfl, by decide⟩
    obtain ⟨hbackend, hp⟩ := ofConfig_ok hg
    obtain ⟨code, register, j, hrun⟩ := (ready_python hg presentable_standard fun d hd =>
      Python.emittable_of_isPlain hp Config.canWrite_standard (hplain d hd).1
        (hplain d hd).2).generate [] #[]
    obtain ⟨a, -, -, hcoherent⟩ := module_contents (.inr rfl) hg rfl hidentifier hrun
    refine ⟨g, code, register, j, hg, hrun, ?_⟩
    cases hcoherent with
    | rust hlanguage =>
      exact absurd (congrArg Backend.language (hbackend.symm.trans hlanguage)) (by decide)
    | python _ _ _ _ hclasses hexports =>
      rw [hexports, hclasses, hnames, if_neg hsome]
      rfl

end CatchAll.Generator
