import CatchAll.Proofs.Target.Contexts
import CatchAll.Target.Backend

/-!
# Fragments that need the wrapper

A fragment that names the wrapper asks for its source first. The names in a
decoration are checked when a plan is made, so the source can always be written,
and with a text for the name of the module the request succeeds in every state
of the register.
-/

set_option autoImplicit false

namespace CatchAll.Target

open scoped Text
open Schema Outcome Emission

/-! ## Decorations of a plan -/

theorem lookUp_ok {table : List (Text × Text)} {name : Text} (h : name ∈ table.map (·.1)) :
    ∃ written, lookUp table name = .ok written := by
  obtain ⟨entry, hentry, rfl⟩ := List.mem_map.mp h
  rw [lookUp]
  split
  · exact ⟨_, rfl⟩
  · rename_i hnone
    exact absurd (List.find?_eq_none.mp hnone entry hentry) (by simp)

theorem mem_of_lookUp {table : List (Text × Text)} {name written : Text}
    (h : lookUp table name = .ok written) : written ∈ table.map (·.2) := by
  rw [lookUp] at h
  split at h
  · rename_i hfound
    obtain rfl := Except.ok.inj h
    exact List.mem_map_of_mem (List.mem_of_find?_eq_some hfound)
  · cases h

/-- Only names that are known come out of the check. -/
theorem knownNames_mem {known : List Text} {complaint : List Text → ConfigError}
    {values : List Json} {names : List Text} (h : knownNames known complaint values = .ok names) :
    ∀ name ∈ names, name ∈ known := by
  obtain ⟨flags, hflags, hchecked⟩ := bind_eq_ok.mp h
  clear h
  dsimp only at hchecked
  split at hchecked
  · rename_i hall
    replace hflags := (mapM_eq_ok _ _ _).mp hflags
    have hnames := (mapM_eq_ok _ _ _).mp hchecked
    clear hchecked
    induction hflags generalizing names with
    | nil =>
      cases hnames
      simp
    | @cons v flag values flags hflag _ ih =>
      cases hnames with
      | @cons _ name _ names hname hnames =>
        have hv : v = .str name := by
          split at hname
          · exact congrArg Json.str (Except.ok.inj hname)
          · cases hname
        subst hv
        obtain rfl : decide (name ∈ known) = flag := Except.ok.inj hflag
        by_cases hmem : name ∈ known
        · intro n hn
          rcases List.mem_cons.mp hn with rfl | hn
          · exact hmem
          · exact ih (by simpa [hmem] using hall) hnames n hn
        · simp [hmem] at hall
  · obtain ⟨unknown, -, hfail⟩ := bind_eq_ok.mp hchecked
    cases hfail

theorem derives_render {traits : List Text} (visibility : Text)
    (h : ∀ name ∈ traits, name ∈ traitPaths.map (·.1)) :
    ∃ t, (Decoration.derives traits visibility).render = .ok t := by
  have hline : ∃ head, deriveLine traits = .ok head := by
    rw [deriveLine]
    split
    · exact ⟨[], rfl⟩
    · have hknown : ∀ name ∈ Text.sort traits, ∃ written, lookUp traitPaths name = .ok written :=
        fun name hname => lookUp_ok (h name ((List.mergeSort_perm traits _).mem_iff.mp hname))
      obtain ⟨paths, hpaths⟩ := mapM_ok_of_forall hknown
      exact ⟨_, bind_eq_ok.mpr ⟨paths, hpaths, rfl⟩⟩
  obtain ⟨head, hhead⟩ := hline
  exact ⟨_, bind_eq_ok.mpr ⟨head, hhead, rfl⟩⟩

theorem decorators_render {names : List Text}
    (h : ∀ name ∈ names, name ∈ decoratorImports.map (·.1)) :
    ∃ t, (Decoration.decorators names).render = .ok t := by
  obtain ⟨written, hwritten⟩ :=
    mapM_ok_of_forall (f := lookUp decoratorImports) fun name hname => lookUp_ok (h name hname)
  exact ⟨_, bind_eq_ok.mpr ⟨written, hwritten, rfl⟩⟩

theorem Rust.decorationOf_ok {config : Config} {decoration : Decoration}
    (h : Rust.decorationOf config = .ok decoration) :
    ∃ traits visibility, decoration = .derives traits visibility ∧
      (∀ name ∈ traits, name ∈ traitPaths.map (·.1)) ∧ visibility ∈ Rust.visibilities := by
  have hshown (v : Json) (hv : isKnown Rust.visibilities v = .ok true) :
      v.shown ∈ Rust.visibilities := by
    cases v with
    | str t => exact of_decide_eq_true (Except.ok.inj hv)
    | _ => cases hv
  obtain ⟨custom, -, h⟩ := bind_eq_ok.mp h
  dsimp only at h
  -- traits and visibility are checked alike, whether traits were given or not
  split at h
  all_goals
    obtain ⟨values, -, h⟩ := bind_eq_ok.mp h
    obtain ⟨traits, htraits, h⟩ := bind_eq_ok.mp h
    split at h
    · cases h
    · obtain ⟨known, hknown, h⟩ := bind_eq_ok.mp h
      split at h
      · obtain rfl := Except.ok.inj h
        exact ⟨traits, _, rfl, knownNames_mem htraits, hshown _ (‹known = true› ▸ hknown)⟩
      · cases h

theorem Rust.decorationOf_renders {config : Config} {decoration : Decoration}
    (h : Rust.decorationOf config = .ok decoration) : ∃ t, decoration.render = .ok t := by
  obtain ⟨traits, visibility, rfl, htraits, -⟩ := Rust.decorationOf_ok h
  exact derives_render visibility htraits

theorem Python.decorationOf_ok {config : Config} {decoration : Decoration}
    (h : Python.decorationOf config = .ok decoration) :
    ∃ names, decoration = .decorators names ∧
      ∀ name ∈ names, name ∈ decoratorImports.map (·.1) := by
  obtain ⟨custom, -, h⟩ := bind_eq_ok.mp h
  dsimp only at h
  split at h
  all_goals
    obtain ⟨values, -, h⟩ := bind_eq_ok.mp h
    obtain ⟨names, hnames, h⟩ := bind_eq_ok.mp h
    obtain rfl := Except.ok.inj h
    exact ⟨names, rfl, knownNames_mem hnames⟩

theorem Python.decorationOf_renders {config : Config} {decoration : Decoration}
    (h : Python.decorationOf config = .ok decoration) : ∃ t, decoration.render = .ok t := by
  obtain ⟨names, rfl, hnames⟩ := Python.decorationOf_ok h
  exact decorators_render hnames

/-! ## Requests -/

theorem moduleKey_str (name : Text) : moduleKey (.str name) = .ok name := rfl

theorem getOrDefine_ok {ε : Type} (register : Register) (module name : Text) {t : Text}
    {source : Unit → Except ε Text} (hsource : source () = .ok t) :
    ∃ register' isNew, register.getOrDefine module name source = .ok (register', isNew) := by
  rw [Register.getOrDefine]
  split
  · exact ⟨register, false, rfl⟩
  · exact ⟨_, true, bind_eq_ok.mpr ⟨t, hsource, rfl⟩⟩

theorem requestWrapper_yields {module : Json} {key t : Text}
    {source : Unit → Except Outside Text} (hkey : moduleKey module = .ok key)
    (hsource : source () = .ok t) : Yields (requestWrapper module source) () := by
  intro register j
  obtain ⟨register', isNew, hdefine⟩ :=
    getOrDefine_ok register key wrapperName hsource
  have hkeyed : (ofOutside (moduleKey module)).run register j = ((.ok key, register), j) :=
    run_ofOutside_ok.mpr ⟨hkey, rfl, rfl⟩
  have hdefined : (ofOutside (register.getOrDefine key wrapperName source)).run register j =
      ((.ok (register', isNew), register), j) := run_ofOutside_ok.mpr ⟨hdefine, rfl, rfl⟩
  cases isNew with
  | false =>
    exact ⟨_, _, run_bind_ok.mpr ⟨key, _, _, hkeyed, run_bind_ok.mpr ⟨register, _, _, rfl,
      run_bind_ok.mpr ⟨_, _, _, hdefined, rfl⟩⟩⟩⟩
  | true =>
    exact ⟨_, _, run_bind_ok.mpr ⟨key, _, _, hkeyed, run_bind_ok.mpr ⟨register, _, _, rfl,
      run_bind_ok.mpr ⟨_, _, _, hdefined, rfl⟩⟩⟩⟩

end CatchAll.Target
