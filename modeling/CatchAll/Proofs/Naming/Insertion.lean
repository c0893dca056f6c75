import CatchAll.Proofs.Naming.MemberNames
import CatchAll.Proofs.Outcome

/-!
# One more member

A name that no member of an enum has is given to a new member whose value
converts to it, wherever the new member stands in the canonical order, and the
others keep theirs. Up to the new member both runs are the same. After it the
sanitizers differ in that one name alone, and the search for a fresh name that
ends elsewhere is not changed by it. A candidate that meets the catch-all stays
used without being a name of any member, so the new name must not meet it.
-/

set_option autoImplicit false

namespace CatchAll.Naming

open scoped Text
open Schema Sanitizer

variable {case : Case} {v : Text} {s s' s₁ : Sanitizer} {name : Option Text}

/-! ## What a step uses -/

theorem claim?_used (s : Sanitizer) (suffix converted t : Text) :
    t ∈ (s.claim? suffix converted).2.used ↔
      t ∈ s.used ∨ (s.claim? suffix converted).1 = some t := by
  rw [claim?]
  split
  · simp
  · simp only [claim, mem_addUsed, Option.some.injEq]
    rw [or_comm, eq_comm]

theorem deriveFrom_used (hr : Remembers case s) {source : Json}
    (h : s.deriveFrom source case "_" = .ok (name, s₁)) (t : Text) :
    t ∈ s₁.used ↔ t ∈ s.used ∨ name = some t := by
  obtain ⟨s₂, hused, -, -, hclaim⟩ := deriveFrom_claim hr h
  have hstep := claim?_used s₂ "_" (identifier case source.shown) t
  rwa [hclaim, hused] at hstep

/-- What a member leaves used is its name or a candidate that met a reserved name. -/
theorem memberIdentifier_used (hv : s.vocabulary.EndsInLetters) (hr : Remembers case s)
    {reserved : List Text} {m : Member} (h : memberIdentifier reserved case s m = .ok (name, s₁))
    {t : Text} (ht : t ∈ s₁.used) :
    t ∈ s.used ∨ name = some t ∨ collides reserved t = true := by
  obtain ⟨⟨candidate, s₂⟩, hfirst, h⟩ := Outcome.bind_eq_ok.mp h
  have hused := deriveFrom_used hr hfirst
  have hr₂ := (deriveFrom_handed hv hr hfirst).1.remembers
  dsimp only at h
  split at h
  · rename_i hcollides
    have hagain : s₂.deriveFrom (.str (m.source.shown ++ "_value")) case "_" = .ok (name, s₁) := h
    rcases (deriveFrom_used hr₂ hagain t).mp ht with ht | hname
    · rcases (hused t).mp ht with ht | rfl
      · exact Or.inl ht
      · exact Or.inr (Or.inr hcollides)
    · exact Or.inr (Or.inl hname)
  · obtain ⟨rfl, rfl⟩ := Prod.mk.inj (Except.ok.inj h)
    rcases (hused t).mp ht with ht | hname
    · exact Or.inl ht
    · exact Or.inr (Or.inl hname)

/-- A name apart from the reserved ones stays unused until a member gets it. -/
theorem memberIdentifier_unused (hv : s.vocabulary.EndsInLetters) (hr : Remembers case s)
    {reserved : List Text} {m : Member} (h : memberIdentifier reserved case s m = .ok (name, s₁))
    {t : Text} (hapart : collides reserved t = false) (hnew : t ∉ s.used) (hname : name ≠ some t) :
    t ∉ s₁.used := by
  intro hmem
  rcases memberIdentifier_used hv hr h hmem with hold | hgot | hmeets
  · exact hnew hold
  · exact hname hgot
  · rw [hapart] at hmeets
    cases hmeets

/-! ## A sanitizer with one more name -/

/-- `s'` knows what `s` knows, and has used `v` besides what `s` has used. -/
structure OneMore (case : Case) (v : Text) (s s' : Sanitizer) : Prop where
  vocabulary : s'.vocabulary = s.vocabulary
  used : ∀ t, t ∈ s'.used ↔ t ∈ s.used ∨ t = v
  known : ∀ k x, s.known? k = some x → s'.known? k = some x
  remembers : Remembers case s
  remembers' : Remembers case s'

/-- A search that does not end at the added name ends where it did. -/
theorem fresh_of_oneMore {used used' : List Text} (h : ∀ t, t ∈ used' ↔ t ∈ used ∨ t = v)
    {base suffix : Text} (hne : fresh used base suffix ≠ v) :
    fresh used' base suffix = fresh used base suffix := by
  obtain ⟨n, hn, hfree, hless⟩ := fresh_spec used base suffix
  rw [hn] at hne ⊢
  apply fresh_eq
  · rw [h]
    exact not_or.mpr ⟨hfree, hne⟩
  · exact fun k hk => (h _).mpr (Or.inl (hless k hk))

/-- Two steps that hand out one name, other than the added one, and leave the added name
as the only difference. -/
def Follows (case : Case) (v : Text) (out out' : Option Text × Sanitizer) : Prop :=
  out.1 ≠ some v → out'.1 = out.1 ∧ OneMore case v out.2 out'.2

theorem Follows.step {out out' : Option Text × Sanitizer} (h : Follows case v out out')
    (hout : out = (name, s₁)) (hname : name ≠ some v) :
    ∃ s₁', out' = (name, s₁') ∧ OneMore case v s₁ s₁' := by
  subst hout
  obtain ⟨hsame, hafter⟩ := h hname
  exact ⟨out'.2, Prod.ext hsame rfl, hafter⟩

theorem known?_convert (hr : Remembers case s) (t k x : Text) :
    (s.convert t case).2.known? k = some x ↔
      (k = key t case ∧ x = identifier case t) ∨ s.known? k = some x := by
  rw [convert]
  cases hknown : s.known? (key t case) with
  | some y =>
    refine ⟨Or.inr, ?_⟩
    rintro (⟨rfl, rfl⟩ | h)
    · rw [hknown, known?_eq hr hknown]
    · exact h
  | none =>
    rw [known?, List.find?_cons]
    by_cases hk : key t case = k
    · subst hk
      simp [hknown, eq_comm]
    · have hother : (key t case == k) = false := by simpa using hk
      simp [hother, known?, Ne.symm hk]

namespace OneMore

theorem addUsed (h : OneMore case v s s') (t : Text) :
    OneMore case v (s.addUsed t) (s'.addUsed t) where
  vocabulary := by rw [addUsed_vocabulary, addUsed_vocabulary, h.vocabulary]
  used := by
    intro u
    rw [mem_addUsed, mem_addUsed, h.used, or_assoc]
  known := by
    intro k x
    rw [known?, known?, addUsed_known, addUsed_known]
    exact h.known k x
  remembers := by
    rw [Remembers, addUsed_known]
    exact h.remembers
  remembers' := by
    rw [Remembers, addUsed_known]
    exact h.remembers'

theorem claim (h : OneMore case v s s') {suffix converted : Text}
    (hname : (s.claim suffix converted).1 ≠ v) :
    (s'.claim suffix converted).1 = (s.claim suffix converted).1 ∧
      OneMore case v (s.claim suffix converted).2 (s'.claim suffix converted).2 := by
  have hfresh : fresh s'.used (s'.avoid suffix converted) suffix =
      fresh s.used (s.avoid suffix converted) suffix := by
    rw [avoid, h.vocabulary, ← avoid]
    exact fresh_of_oneMore h.used hname
  refine ⟨hfresh, ?_⟩
  rw [Sanitizer.claim, Sanitizer.claim, hfresh]
  exact h.addUsed _

theorem claim? (h : OneMore case v s s') (suffix converted : Text) :
    Follows case v (s.claim? suffix converted) (s'.claim? suffix converted) := by
  rw [Sanitizer.claim?, Sanitizer.claim?]
  split
  · exact fun _ => ⟨rfl, h⟩
  · intro hname
    obtain ⟨hsame, hafter⟩ := h.claim fun heq => hname (congrArg some heq)
    exact ⟨congrArg some hsame, hafter⟩

theorem convert (h : OneMore case v s s') (t : Text) :
    (s'.convert t case).1 = (s.convert t case).1 ∧
      OneMore case v (s.convert t case).2 (s'.convert t case).2 := by
  obtain ⟨s₁, hs, hr, hused, hvoc⟩ := convert_spec h.remembers t
  obtain ⟨s₁', hs', hr', hused', hvoc'⟩ := convert_spec h.remembers' t
  have hknown := known?_convert h.remembers t
  have hknown' := known?_convert h.remembers' t
  rw [hs] at hknown
  rw [hs'] at hknown'
  rw [hs, hs']
  refine ⟨rfl, by rw [hvoc, hvoc', h.vocabulary], ?_, ?_, hr, hr'⟩
  · rw [hused, hused']
    exact h.used
  · exact fun k x hk => (hknown' k x).mpr (((hknown k x).mp hk).imp_right (h.known k x))

theorem derive (h : OneMore case v s s') (t : Text) :
    Follows case v (s.derive t case "_") (s'.derive t case "_") := by
  obtain ⟨hsame, hafter⟩ := h.convert t
  have hsplit (r : Sanitizer) : r.derive t case "_" =
      (r.convert t case).2.claim? "_" (r.convert t case).1 := rfl
  rw [hsplit, hsplit, hsame]
  exact hafter.claim? "_" _

theorem deriveFrom (h : OneMore case v s s') {source : Json}
    (hderive : s.deriveFrom source case "_" = .ok (name, s₁)) (hname : name ≠ some v) :
    ∃ s₁', s'.deriveFrom source case "_" = .ok (name, s₁') ∧ OneMore case v s₁ s₁' := by
  cases source with
  | str t =>
    obtain ⟨s₁', hstep, hafter⟩ := (h.derive t).step (Except.ok.inj hderive) hname
    exact ⟨s₁', congrArg Except.ok hstep, hafter⟩
  | _ =>
    simp only [Sanitizer.deriveFrom] at hderive ⊢
    split at hderive
    · rename_i x hx
      obtain ⟨s₁', hstep, hafter⟩ := (h.claim? "_" x).step (Except.ok.inj hderive) hname
      rw [h.known _ x hx]
      exact ⟨s₁', congrArg Except.ok hstep, hafter⟩
    · cases hderive

theorem memberIdentifier (h : OneMore case v s s') {reserved : List Text} {m : Member}
    (hcollides : collides reserved v = false)
    (hstep : Naming.memberIdentifier reserved case s m = .ok (name, s₁)) (hname : name ≠ some v) :
    ∃ s₁', Naming.memberIdentifier reserved case s' m = .ok (name, s₁') ∧
      OneMore case v s₁ s₁' := by
  obtain ⟨⟨candidate, s₂⟩, hfirst, hrest⟩ := Outcome.bind_eq_ok.mp hstep
  dsimp only at hrest
  -- the candidate is discarded or handed out, so it is not the added name either
  have hcandidate : candidate ≠ some v := by
    rintro rfl
    rw [Option.any_some, hcollides] at hrest
    obtain ⟨rfl, rfl⟩ := Prod.mk.inj (Except.ok.inj hrest)
    exact hname rfl
  obtain ⟨s₂', hfirst', hafter⟩ := h.deriveFrom hfirst hcandidate
  have hsplit : Naming.memberIdentifier reserved case s' m =
      if candidate.any (collides reserved) then
        .ok (s₂'.derive (m.source.shown ++ "_value") case "_")
      else .ok (candidate, s₂') := by
    rw [Naming.memberIdentifier, hfirst']
    rfl
  rw [hsplit]
  split at hrest
  · obtain ⟨s₁', hagain, hlast⟩ := (hafter.derive _).step (Except.ok.inj hrest) hname
    rw [if_pos ‹_›]
    exact ⟨s₁', congrArg Except.ok hagain, hlast⟩
  · obtain ⟨rfl, rfl⟩ := Prod.mk.inj (Except.ok.inj hrest)
    rw [if_neg ‹_›]
    exact ⟨_, rfl, hafter⟩

end OneMore

/-! ## The run over the members -/

/-- A run that does not hand out the added name is the same with it. -/
theorem nameMembers_oneMore {reserved : List Text} (hcollides : collides reserved v = false)
    {ms named : List Member} (h : OneMore case v s s')
    (hrun : nameMembers reserved case s ms = .ok named)
    (hout : ∀ m ∈ named, m.identifier ≠ some v) :
    nameMembers reserved case s' ms = .ok named := by
  induction ms generalizing s s' named with
  | nil => exact hrun
  | cons m ms ih =>
    obtain ⟨name, s₁, rest, hstep, hrest, rfl⟩ := nameMembers_cons_eq_ok.mp hrun
    obtain ⟨s₁', hstep', hafter⟩ :=
      h.memberIdentifier hcollides hstep (hout _ List.mem_cons_self)
    have hrest' := ih hafter hrest fun m' hm' => hout m' (List.mem_cons_of_mem _ hm')
    exact nameMembers_cons_eq_ok.mpr ⟨name, s₁', rest, hstep', hrest', rfl⟩

/-- A text converts to a name that neither the language nor a reserved name lays claim to. -/
structure ConvertsTo (case : Case) (reserved : List Text) (words : Vocabulary) (t v : Text) :
    Prop where
  converts : identifier case t = v
  ne_nil : v ≠ []
  unclaimed : words.claims v = false
  apart : collides reserved v = false

theorem ConvertsTo.derive (hr : Remembers case s) {reserved : List Text} {t : Text}
    (h : ConvertsTo case reserved s.vocabulary t v) :
    s.derive t case "_" = (some (fresh s.used v "_"),
      (s.convert t case).2.addUsed (fresh s.used v "_")) := by
  obtain ⟨s₁, hconvert, -, hused, hvoc⟩ := convert_spec hr t
  have havoid : s₁.avoid "_" v = v := by
    rw [avoid, hvoc, h.unclaimed]
    rfl
  rw [Sanitizer.derive, hconvert, h.converts]
  simp only [claim?, if_neg h.ne_nil, claim, havoid, hused]

/-- A value whose name is not used yet is given it. -/
theorem memberIdentifier_new (hr : Remembers case s) {reserved : List Text} {m : Member} {t : Text}
    (hsource : m.source = .str t) (hplain : ConvertsTo case reserved s.vocabulary t v)
    (hnew : v ∉ s.used) :
    ∃ s', memberIdentifier reserved case s m = .ok (some v, s') ∧ OneMore case v s s' := by
  obtain ⟨s₁, hconvert, hr₁, hused, hvoc⟩ := convert_spec hr t
  have hderive : s.derive t case "_" = (some v, s₁.addUsed v) := by
    rw [hplain.derive hr, hconvert, fresh_of_not_mem hnew]
  refine ⟨s₁.addUsed v, ?_, ?_⟩
  · refine Outcome.bind_eq_ok.mpr ⟨(some v, s₁.addUsed v), ?_, ?_⟩
    · rw [hsource, deriveFrom, hderive]
    · simp only [Option.any_some, hplain.apart]
      rfl
  · have hknown := known?_convert hr t
    rw [hconvert] at hknown
    refine ⟨?_, ?_, ?_, hr, ?_⟩
    · rw [addUsed_vocabulary, hvoc]
    · intro u
      rw [mem_addUsed, hused, or_comm]
    · intro k x hk
      rw [known?, addUsed_known]
      exact (hknown k x).mpr (Or.inr hk)
    · rw [Remembers, addUsed_known]
      exact hr₁

/-- The new member is named after its value, and the others are named as without it. -/
theorem nameMembers_insert (hv : s.vocabulary.EndsInLetters) (hr : Remembers case s)
    {reserved : List Text} {before later named : List Member} {m : Member} {t : Text}
    (hsource : m.source = .str t) (hplain : ConvertsTo case reserved s.vocabulary t v)
    (hnew : v ∉ s.used) (hrun : nameMembers reserved case s (before ++ later) = .ok named)
    (hout : ∀ m' ∈ named, m'.identifier ≠ some v) :
    ∃ named', nameMembers reserved case s (before ++ m :: later) = .ok named' ∧
      named'.Perm (m.withIdentifier (some v) :: named) := by
  induction before generalizing s named with
  | nil =>
    obtain ⟨s', hstep, hafter⟩ := memberIdentifier_new hr hsource hplain hnew
    have hrest := nameMembers_oneMore hplain.apart hafter hrun hout
    exact ⟨_, nameMembers_cons_eq_ok.mpr ⟨_, s', named, hstep, hrest, rfl⟩, List.Perm.refl _⟩
  | cons first before ih =>
    obtain ⟨name, s₁, rest, hstep, hrest, rfl⟩ := nameMembers_cons_eq_ok.mp hrun
    obtain ⟨hhanded, -⟩ := memberIdentifier_handed hv hr hstep
    have hnew₁ : v ∉ s₁.used :=
      memberIdentifier_unused hv hr hstep hplain.apart hnew (hout _ List.mem_cons_self)
    obtain ⟨named', hrest', hperm⟩ := ih (hhanded.vocabulary ▸ hv) hhanded.remembers
      (hhanded.vocabulary ▸ hplain) hnew₁ hrest
      fun m' hm' => hout m' (List.mem_cons_of_mem _ hm')
    refine ⟨_, nameMembers_cons_eq_ok.mpr ⟨name, s₁, named', hstep, hrest', rfl⟩, ?_⟩
    exact (hperm.cons _).trans (List.Perm.swap _ _ _)

/-! ## All members of an enum -/

theorem collides_of_mem {reserved : List Text} (h : v ∈ reserved) : collides reserved v = true :=
  List.any_eq_true.mpr ⟨v, h, by simp [collidesWith]⟩

theorem ConvertsTo.not_reserved {reserved : List Text} {words : Vocabulary} {t : Text}
    (h : ConvertsTo case reserved words t v) : v ∉ reserved := by
  intro hmem
  have hmeets := collides_of_mem hmem
  rw [h.apart] at hmeets
  cases hmeets

/-- Members with distinct values stand in canonical order around a new one. -/
theorem sortMembers_insert {members members' : List Member} {m : Member}
    (hperm : members'.Perm (m :: members)) (hdistinct : ((m :: members).map (·.value)).Nodup) :
    ∃ before later, sortMembers members' = before ++ m :: later ∧
      sortMembers members = before ++ later := by
  obtain ⟨before, later, hwith, hwithout, -⟩ := List.mergeSort_cons
    (fun a b c => Text.le_transitive a.value b.value c.value)
    (fun a b => Text.le_linear a.value b.value) m members
  have hsame := sortMembers_eq_of_perm hperm ((hperm.map _).nodup_iff.mpr hdistinct)
  exact ⟨before, later, hsame.trans hwith, hwithout⟩

theorem deriveMembers_insert (hv : s.vocabulary.EndsInLetters) {reserved : List Text}
    {members members' named : List Member} {m : Member} {t : Text}
    (hperm : members'.Perm (m :: members)) (hdistinct : ((m :: members).map (·.value)).Nodup)
    (hsource : m.source = .str t) (hplain : ConvertsTo case reserved s.vocabulary t v)
    (hrun : deriveMembers members s case reserved = .ok named)
    (hout : ∀ m' ∈ named, m'.identifier ≠ some v) :
    ∃ named', deriveMembers members' s case reserved = .ok named' ∧
      named'.Perm (m.withIdentifier (some v) :: named) := by
  have hstart := startWith_vocabulary s reserved
  have hnew : v ∉ (s.startWith reserved).used :=
    fun hmem => hplain.not_reserved (mem_startWith.mp hmem)
  obtain ⟨before, later, hwith, hwithout⟩ := sortMembers_insert hperm hdistinct
  rw [deriveMembers, hwithout] at hrun
  rw [deriveMembers, hwith]
  exact nameMembers_insert (hstart ▸ hv) (remembers_startWith s reserved) hsource
    (hstart ▸ hplain) hnew hrun hout

end CatchAll.Naming
