import CatchAll.Proofs.Naming.Division
import CatchAll.Proofs.Naming.Shape
import CatchAll.Proofs.Target.FutureVariant
import CatchAll.Proofs.Target.RustDocumentation
import CatchAll.Proofs.Target.RustExample

/-!
# The variant that Rust documentation announces

The documentation of an enum says that a newer version defines the placeholder itself
as a variant, however variants are written. A placeholder is written as pascal case
writes it. So the announcement comes true for that case, and for no other one: there
the new variant begins with the conversion of the placeholder, which begins otherwise.
-/

set_option autoImplicit false

namespace CatchAll.Naming

open scoped Text
open Schema Sanitizer

/-! ## Names begin with the conversion -/

variable {case : Case} {s s₁ : Sanitizer} {reserved : List Text} {t v : Text}

theorem prefix_candidate (base suffix : Text) (n : Nat) :
    base <+: Sanitizer.candidate base suffix n := by
  cases n with
  | zero => exact List.prefix_rfl
  | succ n => exact (List.prefix_append _ _).trans (List.prefix_append _ _)

/-- A member whose candidates are all good gets one of them. -/
theorem memberIdentifier_candidate (hr : Remembers case s) {m : Member} {name : Option Text}
    (hsource : m.source = .str t) (hplain : ConvertsTo case reserved s.vocabulary t v)
    (hgood : ∀ n, collides reserved (candidate v "_" n) = false)
    (h : memberIdentifier reserved case s m = .ok (name, s₁)) :
    ∃ n, name = some (candidate v "_" n) := by
  obtain ⟨n, hn, -, -⟩ := fresh_spec s.used v "_"
  rw [memberIdentifier, hsource, deriveFrom, hplain.derive hr, hn] at h
  simp only [bind, Except.bind, Option.any_some, hgood n] at h
  exact ⟨n, (Prod.mk.inj (Except.ok.inj h)).1.symm⟩

theorem nameMembers_candidate (hv : s.vocabulary.EndsInLetters) (hr : Remembers case s)
    (hplain : ConvertsTo case reserved s.vocabulary t v)
    (hgood : ∀ n, collides reserved (candidate v "_" n) = false) {ms named : List Member}
    (h : nameMembers reserved case s ms = .ok named) :
    ∀ m ∈ named, m.source = .str t → ∃ n, m.identifier = some (candidate v "_" n) := by
  induction ms generalizing s named with
  | nil =>
    obtain rfl : [] = named := Except.ok.inj h
    exact fun m hm => absurd hm List.not_mem_nil
  | cons first ms ih =>
    obtain ⟨name, s₁, rest, hstep, hrest, rfl⟩ := nameMembers_cons_eq_ok.mp h
    obtain ⟨hhanded, -⟩ := memberIdentifier_handed hv hr hstep
    intro m hm hsource
    rcases List.mem_cons.mp hm with rfl | hm
    · exact memberIdentifier_candidate hr hsource hplain hgood hstep
    · exact ih (hhanded.vocabulary ▸ hv) hhanded.remembers (hhanded.vocabulary ▸ hplain) hrest
        m hm hsource

theorem deriveMembers_candidate (hv : s.vocabulary.EndsInLetters)
    (hplain : ConvertsTo case reserved s.vocabulary t v)
    (hgood : ∀ n, collides reserved (candidate v "_" n) = false) {members named : List Member}
    (h : deriveMembers members s case reserved = .ok named) :
    ∀ m ∈ named, m.source = .str t → ∃ n, m.identifier = some (candidate v "_" n) := by
  have hstart := startWith_vocabulary s reserved
  exact nameMembers_candidate (hstart ▸ hv) (remembers_startWith s reserved) (hstart ▸ hplain)
    hgood h

/-! ## The words of a new feature -/

theorem letters_map_toLower {t : Text} (h : ∀ c ∈ t, isNameChar c = true) :
    letters (t.map Char.toLower) = letters t := by
  induction t with
  | nil => rfl
  | cons c t ih =>
    obtain ⟨hc, ht⟩ := List.forall_mem_cons.mp h
    have hone : letters [c.toLower] = letters [c] := by
      simp only [isNameChar, Bool.or_eq_true, beq_iff_eq] at hc
      rcases hc with hc | rfl
      · obtain ⟨hlow, hback⟩ := toLower_of_isAlphanum c hc
        simp [letters, hc, hlow, hback]
      · rfl
    rw [List.map_cons, ← List.singleton_append, letters_append, ih ht, hone, ← letters_append,
      List.singleton_append]

open Target in
/-- A candidate is read as two words, the second of which has the number. -/
theorem words_feature (n : Nat) :
    words (placeholderAt placeholderBase n) = [("new" : Text), "feature" ++ counter n] := by
  have hdigits := counter_digits n
  have hcounter : ∀ c ∈ counter n, c.isAlphanum = true ∧ c.toLower = c :=
    fun c hc => ⟨isAlphanum_of_isDigit (hdigits c hc), toLower_of_isDigit (hdigits c hc)⟩
  have hsmall : ∀ c ∈ "eature" ++ counter n, (c.isLower || c.isDigit) = true :=
    List.forall_mem_append.mpr ⟨List.all_eq_true.mp rfl, fun c hc => by simp [hdigits c hc]⟩
  have hnew : IsPart "New" ("Feature" ++ counter n) :=
    isPart_of_small rfl (List.all_eq_true.mp rfl) fun _ _ _ =>
      (boundary_concat_iff "Ne" ("Feature" ++ counter n) 'w').mpr rfl
  have hfeature : IsPart ("Feature" ++ counter n) [] :=
    isPart_of_small rfl hsmall fun _ hnone => nomatch hnone
  have hdivided : Divided (placeholderAt placeholderBase n) ["New", "Feature" ++ counter n] := by
    have hlast := Divided.first hfeature (.gap (by simp))
    rw [List.append_nil] at hlast
    rw [placeholderAt_eq]
    exact .first hnew hlast
  have hlower : lowerWord ("Feature" ++ counter n) = "feature" ++ counter n := by
    rw [lowerWord, List.map_append]
    exact congrArg ("feature".toList ++ ·) (lowerWord_of_word hcounter)
  rw [hdivided.words_eq, List.map_cons, List.map_singleton, hlower]
  rfl

open Target in
/-- Only pascal case begins the conversion of a candidate as the candidate begins. -/
theorem take_identifier_feature (case : Case) (n : Nat) :
    (identifier case (placeholderAt placeholderBase n)).take 2 = "Ne" ↔ case = .pascal := by
  rw [identifier, words_feature]
  cases case with
  | snake => exact iff_of_false (show ("ne" : Text) ≠ "Ne" by decide) (by decide)
  | camel => exact iff_of_false (show ("ne" : Text) ≠ "Ne" by decide) (by decide)
  | pascal => exact iff_of_true rfl rfl
  | screamingSnake => exact iff_of_false (show ("NE" : Text) ≠ "Ne" by decide) (by decide)

open Target in
theorem identifier_pascal_feature (n : Nat) :
    identifier .pascal (placeholderAt placeholderBase n) = placeholderAt placeholderBase n := by
  rw [identifier, words_feature, placeholderAt_eq]
  show "New".toList ++ ("Feature".toList ++ counter n ++ []) = "NewFeature".toList ++ counter n
  rw [List.append_nil, ← List.append_assoc]
  rfl

open Target in
theorem identifier_feature_eq_self_iff (case : Case) (n : Nat) :
    identifier case (placeholderAt placeholderBase n) = placeholderAt placeholderBase n ↔
      case = .pascal := by
  constructor
  · intro h
    rw [← take_identifier_feature case n, h, placeholderAt_eq]
    rfl
  · rintro rfl
    exact identifier_pascal_feature n

open Target in
/-- The conversion of a candidate has all letters of the candidate, so it is no proper part. -/
theorem eq_pascal_of_begins {case : Case} {n : Nat}
    (h : identifier case (placeholderAt placeholderBase n) <+: placeholderAt placeholderBase n) :
    case = .pascal := by
  rw [← identifier_feature_eq_self_iff case n]
  obtain ⟨rest, hrest⟩ := h
  have hletters := congrArg letters hrest
  rw [letters_append, letters_identifier, List.append_right_eq_self, letters_eq_nil] at hletters
  have hnone : rest = [] := by
    refine List.eq_nil_iff_forall_not_mem.mpr fun x hx => ?_
    have hshown := placeholderAt_chars n x (hrest ▸ List.mem_append_right _ hx)
    rw [hletters x hx] at hshown
    cases hshown
  rwa [hnone, List.append_nil] at hrest

end CatchAll.Naming

namespace CatchAll.Target.Rust

open scoped Text
open Schema Naming

/-! ## The placeholder -/

theorem claims_feature {v : Text} (hname : IsName v) (h : featureLetters <+: letters v) :
    vocabulary.claims v = false := by
  have hwords : ∀ w ∈ vocabulary.reserved, ¬ featureLetters <+: letters w := by decide +kernel
  have hnames : ∀ w ∈ vocabulary.builtins, ¬ featureLetters <+: letters w := by decide +kernel
  have hmem : v ∉ vocabulary.reserved := fun hmem => hwords v hmem h
  have hbuiltin : v.map Char.toLower ∉ vocabulary.builtins := by
    intro hmem
    rw [← letters_map_toLower hname.chars] at h
    exact hnames _ hmem h
  simp [Vocabulary.claims, hmem, hbuiltin]

/-- A candidate is named after its own conversion. -/
theorem convertsTo_feature (case : Case) (n : Nat) :
    ConvertsTo case [catchAllName] vocabulary (placeholderAt placeholderBase n)
      (identifier case (placeholderAt placeholderBase n)) := by
  have hfeature := featureLetters_prefix case n
  have hne := identifier_feature_ne_nil case n
  exact ⟨rfl, hne, claims_feature (isName_identifier case _ hne) hfeature,
    collides_feature hfeature⟩

/-- So are the names that a conflict leaves for it. -/
theorem collides_candidate_feature (case : Case) (n k : Nat) :
    collides [catchAllName]
      (Sanitizer.candidate (identifier case (placeholderAt placeholderBase n)) "_" k) = false := by
  apply collides_feature
  obtain ⟨rest, hrest⟩ := prefix_candidate
    (identifier case (placeholderAt placeholderBase n)) "_" k
  rw [← hrest, letters_append]
  have hfeature := featureLetters_prefix case n
  exact hfeature.trans (List.prefix_append _ _)

theorem placeholder_spec (members : List Member) :
    ∃ n, placeholder members = placeholderAt placeholderBase n ∧
      placeholder members ∉ taken members := by
  have hseparates : Separates placeholderBase none := fun _ h => by cases h
  obtain ⟨n, -, hn, hfree, -⟩ := choosePlaceholder_spec hseparates members
  refine ⟨n, hn, ?_⟩
  rw [placeholder, hn]
  simpa [isFree] using hfree

/-! ## Main result -/

variable {config : Config} {g : Generator} {p : Plan} {d : Definition} {c : Context}
  {register register' : Register} {j j' : Journal}

theorem announcement_documented (hp : backend.Plans config p) (hc : c.Of p d) {layout : Layout}
    (hlayout : p.layout = .ok layout) :
    marked (announcement c.typeName (placeholder c.members)) ∈
      Text.lines (docsText layout c) := by
  have hT : '\n' ∉ c.typeName :=
    lineFeed_not_mem_of_isName (hc.isName_typeName (hp.vocabulary ▸ endsInLetters_rust))
  have hshown : '\n' ∉ placeholder c.members :=
    fun hmem => absurd (choosePlaceholder_chars c.members none _ hmem) (by decide)
  rw [lines_docsText hT hshown (fun v hv => lineFeed_not_mem_of_isName (hc.isName_variants v hv))
    ((layout_docMark hlayout).trans hp.docMark)]
  exact List.mem_map_of_mem (announcement_mem hT hshown)

/-- A candidate that has itself as its variant was written in pascal case. -/
theorem eq_pascal_of_mem (hp : backend.Plans config p) (hc : c.Of p d) {m : Member} {n : Nat}
    (hsource : m.source = .str (placeholderAt placeholderBase n))
    (hm : m.withIdentifier (some (placeholderAt placeholderBase n)) ∈ c.members) :
    p.settings.variantCase = .pascal := by
  have hv : p.memberVocabulary.EndsInLetters := hp.memberVocabulary ▸ endsInLetters_rust
  have hplain := convertsTo_feature p.settings.variantCase n
  have hgood := collides_candidate_feature p.settings.variantCase n
  have hreserved : [catchAllName] = p.policy.reserved := by
    rw [hp.policy]
    rfl
  have hwords : vocabulary = p.memberVocabulary := hp.memberVocabulary.symm
  rw [hreserved] at hplain hgood
  rw [hwords] at hplain
  obtain ⟨k, hk⟩ := deriveMembers_candidate hv hplain hgood hc.derived _ hm hsource
  have hk : placeholderAt placeholderBase n = _ := Option.some.inj hk
  have hstart := prefix_candidate
    (identifier p.settings.variantCase (placeholderAt placeholderBase n)) "_" k
  rw [← hk] at hstart
  exact eq_pascal_of_begins hstart

/-- The documentation of an enum says that a newer version defines the placeholder as a
variant. The placeholder is neither a value nor a variant of the enum. Once a member with that
value and no name of its own is added, the member gets the announced variant if and only if
variants are written in pascal case, and then all others keep theirs. Otherwise it gets the
conversion of the placeholder, unless that is the variant of another member. -/
theorem announced_variant_defined_iff
    (hg : Generator.ofConfig backend config none = .ok g)
    (hdistinct : (d.members.map (·.value)).Nodup)
    (hc : (g.plan.buildContext d).run register j = ((.ok c, register'), j')) :
    let case := g.plan.settings.variantCase
    let shown := placeholder c.members
    let future := identifier case shown
    (∀ layout, g.plan.layout = .ok layout →
      marked (announcement c.typeName shown) ∈ Text.lines (docsText layout c)) ∧
    shown ∉ d.members.map (·.value) ∧ (∀ m ∈ c.members, m.identifier ≠ some shown) ∧
    ∀ m members', m.value = shown → m.name.truthy = false → members'.Perm (m :: d.members) →
      ((∃ c', Emission.Yields (g.plan.buildContext { d with members := members' }) c' ∧
        m.withIdentifier (some shown) ∈ c'.members) ↔ case = .pascal) ∧
      (case = .pascal →
        ∃ c', Emission.Yields (g.plan.buildContext { d with members := members' }) c' ∧
          c'.members.Perm (m.withIdentifier (some shown) :: c.members)) ∧
      ((∀ m' ∈ c.members, m'.identifier ≠ some future) →
        ∃ c', Emission.Yields (g.plan.buildContext { d with members := members' }) c' ∧
          c'.members.Perm (m.withIdentifier (some future) :: c.members)) := by
  obtain ⟨-, hp⟩ := Generator.ofConfig_ok hg
  have hwords : g.plan.memberVocabulary = vocabulary := hp.memberVocabulary
  have hv : g.plan.memberVocabulary.EndsInLetters := hwords ▸ endsInLetters_rust
  have hreserved : g.plan.policy.reserved = [catchAllName] := by
    rw [hp.policy]
    rfl
  have hof := Plan.buildContext_ok hv hc
  intro case shown future
  obtain ⟨n, hn, hfree⟩ := placeholder_spec c.members
  have hvalue : shown ∉ d.members.map (·.value) := by
    rw [← hof.mem_values]
    intro hmem
    obtain ⟨m, hm, hshown⟩ := List.mem_map.mp hmem
    exact hfree (mem_taken.mpr ⟨m, hm, Or.inl hshown.symm⟩)
  have hvariant : ∀ m ∈ c.members, m.identifier ≠ some shown := by
    intro m hm hname
    exact hfree (mem_taken.mpr ⟨m, hm, Or.inr ((hof.variant?_eq hm).trans hname)⟩)
  refine ⟨fun _ => announcement_documented hp hof, hvalue, hvariant,
    fun m members' hm hname hperm => ?_⟩
  have hsource : m.source = .str shown := by
    rw [Member.source, hname, hm]
    rfl
  have hdistinct' : ((m :: d.members).map (·.value)).Nodup :=
    List.nodup_cons.mpr ⟨fun hmem => hvalue (hm ▸ hmem), hdistinct⟩
  have hplain : ConvertsTo case g.plan.policy.reserved g.plan.memberVocabulary shown future := by
    have hfeature := convertsTo_feature case n
    rwa [← hn, ← hwords, ← hreserved] at hfeature
  have hself : case = .pascal → future = shown := fun hpascal =>
    (congrArg (identifier case) hn).trans
      (((identifier_feature_eq_self_iff case n).mpr hpascal).trans hn.symm)
  have hadd := hof.insert hv hperm hdistinct' hsource hplain
  have hpascal : case = .pascal →
      ∃ c', Emission.Yields (g.plan.buildContext { d with members := members' }) c' ∧
        c'.members.Perm (m.withIdentifier (some shown) :: c.members) := by
    intro h
    rw [hself h] at hadd
    exact hadd hvariant
  refine ⟨⟨?_, fun h => ?_⟩, hpascal, hadd⟩
  · rintro ⟨c', hc', hmem⟩
    obtain ⟨register₁, j₁, hrun⟩ := hc' [] #[]
    have hof' := Plan.buildContext_ok hv hrun
    rw [show shown = placeholderAt placeholderBase n from hn] at hsource hmem
    exact eq_pascal_of_mem hp hof' hsource hmem
  · obtain ⟨c', hc', hmembers⟩ := hpascal h
    exact ⟨c', hc', hmembers.mem_iff.mpr List.mem_cons_self⟩

/-- The base is a value, and so is its first successor. -/
def numberedFlags : Definition :=
  ⟨"Flag", [.ofValue "NewFeature", .ofValue "NewFeature2", .ofValue "unknown"], .null⟩

theorem numbered_flag_defined :
    ∃ g c, Generator.ofConfig backend .standard none = .ok g ∧
      Emission.Yields (g.plan.buildContext numberedFlags) c ∧
      (let flag := Member.ofValue (placeholder c.members)
       ∃ c', Emission.Yields (g.plan.buildContext
          { numberedFlags with members := flag :: numberedFlags.members }) c' ∧
        flag.withIdentifier (some flag.value) ∈ c'.members) := by
  obtain ⟨g, hg⟩ : ∃ g, Generator.ofConfig backend .standard none = .ok g := ⟨_, rfl⟩
  have hcase : g.plan.settings.variantCase = .pascal := by
    obtain rfl := Except.ok.inj hg
    rfl
  obtain ⟨-, hp⟩ := Generator.ofConfig_ok hg
  have hv : g.plan.memberVocabulary.EndsInLetters := hp.memberVocabulary ▸ endsInLetters_rust
  obtain ⟨c, hc⟩ : ∃ c, Emission.Yields (g.plan.buildContext numberedFlags) c := by
    apply Plan.buildContext_yields hv
    · intro m hm
      simp only [numberedFlags, List.mem_cons, List.not_mem_nil, or_false] at hm
      rcases hm with rfl | rfl | rfl <;> exact ⟨_, rfl⟩
    · exact ⟨.ofValue "unknown", by simp [numberedFlags], 'u', by decide, rfl⟩
  obtain ⟨register, j, hrun⟩ := hc [] #[]
  obtain ⟨-, -, -, hadd⟩ := announced_variant_defined_iff hg (by decide) hrun
  exact ⟨g, c, hg, hc, (hadd (.ofValue _) _ rfl rfl (List.Perm.refl _)).1.mpr hcase⟩

theorem buildContext_yields_named {p : Plan} {members : List Member}
    (hnamed : p.namedMembers d = .ok members)
    (hsorted : members.Pairwise fun a b => valueLe a b = true) (hsome : ∃ m ∈ members, m.isNamed) :
    ∃ c, Emission.Yields (p.buildContext d) c ∧ c.members = members := by
  have hmembers := sortMembers_of_pairwise hsorted
  refine ⟨_, Plan.buildContext_yields_of (Outcome.bind_eq_ok.mpr ⟨members, hnamed, rfl⟩) ?_,
    hmembers⟩
  obtain ⟨m, hm, hnamed⟩ := hsome
  refine List.ne_nil_of_mem (List.mem_filter.mpr ⟨?_, hnamed⟩)
  exact (sortMembers_perm members).mem_iff.mpr hm

/-- In snake case the new variant is not the announced one. -/
theorem announced_level_not_defined :
    ∃ g c c', Generator.ofConfig backend { Config.standard with variantCase := .str "snake" } none =
        .ok g ∧
      Emission.Yields (g.plan.buildContext ⟨"Level", [.ofValue "a"], .null⟩) c ∧
      placeholder c.members = "NewFeature" ∧
      Emission.Yields (g.plan.buildContext
        ⟨"Level", [.ofValue "NewFeature", .ofValue "a"], .null⟩) c' ∧
      c'.members = [(Member.ofValue "NewFeature").withIdentifier (some "new_feature"),
        (Member.ofValue "a").withIdentifier (some "a")] ∧
      "new_feature".toList ≠ "NewFeature" := by
  obtain ⟨g, hg⟩ : ∃ g, Generator.ofConfig backend
      { Config.standard with variantCase := .str "snake" } none = .ok g := ⟨_, rfl⟩
  have hfirst : sortMembers [.ofValue "a"] = [.ofValue "a"] :=
    sortMembers_of_pairwise (List.pairwise_singleton _ _)
  have hboth : sortMembers [.ofValue "NewFeature", .ofValue "a"] =
      [.ofValue "NewFeature", .ofValue "a"] := sortMembers_of_pairwise (by decide)
  have hnamed : g.plan.namedMembers ⟨"Level", [.ofValue "a"], .null⟩ =
      .ok [(Member.ofValue "a").withIdentifier (some "a")] := by
    obtain rfl := Except.ok.inj hg
    rw [Plan.namedMembers, deriveMembers, hfirst]
    rfl
  have hrenamed : g.plan.namedMembers ⟨"Level", [.ofValue "NewFeature", .ofValue "a"], .null⟩ =
      .ok [(Member.ofValue "NewFeature").withIdentifier (some "new_feature"),
        (Member.ofValue "a").withIdentifier (some "a")] := by
    obtain rfl := Except.ok.inj hg
    rw [Plan.namedMembers, deriveMembers, hboth]
    rfl
  obtain ⟨c, hc, hmembers⟩ := buildContext_yields_named hnamed (List.pairwise_singleton _ _)
    ⟨_, List.mem_singleton_self _, rfl⟩
  obtain ⟨c', hc', hmembers'⟩ := buildContext_yields_named hrenamed (by decide)
    ⟨_, List.mem_cons_self, rfl⟩
  refine ⟨g, c, c', hg, hc, ?_, hc', hmembers', by decide⟩
  rw [hmembers]
  decide

end CatchAll.Target.Rust
