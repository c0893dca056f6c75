import CatchAll.Proofs.Naming.Natural
import CatchAll.Proofs.Naming.Shape

/-!
# Names that stay

A member is renamed only in a conflict. If the natural names of all members are different
and none of them is the catch-all, the members have these names, since no natural name
looks like the catch-all with a counter. And whatever the conflicts are, a name depends on
the members with smaller values alone: the members are named in the order of their values.
-/

set_option autoImplicit false

namespace CatchAll.Naming

open scoped Text
open Schema Sanitizer

variable {v : Vocabulary} {case : Case} {reserved used : List Text} {t base : Text}

/-- The natural names of some members. -/
def naturalNames (v : Vocabulary) (case : Case) (ms : List Member) : List Text :=
  ms.filterMap fun m => v.natural case m.source.shown

/-! ## Members without conflicts -/

theorem naturalNames_cons (v : Vocabulary) (case : Case) (m : Member) (ms : List Member) :
    naturalNames v case (m :: ms) =
      (v.natural case m.source.shown).toList ++ naturalNames v case ms := by
  rw [naturalNames, List.filterMap_cons]
  cases v.natural case m.source.shown <;> rfl

theorem assign_of_new (h : ∀ base, v.natural case t = some base →
      base ∉ used ∧ collides reserved base = false) :
    v.assign case reserved used t =
      (v.natural case t, used ++ (v.natural case t).toList) := by
  have hpick : v.pick case used t = v.natural case t := by
    rw [Vocabulary.pick]
    cases hnatural : v.natural case t with
    | none => rfl
    | some base => exact congrArg some (fresh_of_not_mem (h base hnatural).1 "_")
  have hfree : (v.natural case t).any (collides reserved) = false := by
    cases hnatural : v.natural case t with
    | none => rfl
    | some base => exact (h base hnatural).2
  exact assign_of_free hpick hfree

/-- Different names that are not used and meet no reserved name are all given. -/
theorem nameAll_of_distinct {ms : List Member}
    (hdistinct : (naturalNames v case ms).Nodup)
    (hnew : ∀ m ∈ ms, ∀ base, v.natural case m.source.shown = some base →
      base ∉ used ∧ collides reserved base = false) :
    v.nameAll case reserved used ms =
      ms.map fun m => m.withIdentifier (v.natural case m.source.shown) := by
  induction ms generalizing used with
  | nil => rfl
  | cons m ms ih =>
    obtain ⟨hm, hms⟩ := List.forall_mem_cons.mp hnew
    rw [naturalNames_cons] at hdistinct
    obtain ⟨-, hrest, hapart⟩ := List.nodup_append.mp hdistinct
    rw [Vocabulary.nameAll, assign_of_new hm, List.map_cons]
    refine congrArg _ (ih hrest fun m' hm' base hbase => ⟨?_, (hms m' hm' base hbase).2⟩)
    rw [List.mem_append, not_or]
    have hlater : base ∈ naturalNames v case ms := List.mem_filterMap.mpr ⟨m', hm', hbase⟩
    exact ⟨(hms m' hm' base hbase).1, fun hfirst => hapart base hfirst base hlater rfl⟩

/-! ## The catch-all with a counter -/

theorem toUpper_isLower {c : Char} (h : c.isAlphanum = true) : c.toUpper.isLower = false :=
  forall_isAlphanum (P := fun c => c.toUpper.isLower = false) (by decide) c h

/-- The catch-all has capitals, small letters and, with a counter, an underscore; no case
writes all three. -/
theorem write_ne_numbered_catchAll (hwords : words t ≠ []) (rest : Text) :
    case.write (words t) ≠ Target.catchAllName ++ '_' :: rest := by
  have hareWords := areWords_words t
  have hjoin := (isSnake_joinWith hareWords hwords).chars
  intro heq
  have hmem : ∀ c ∈ Target.catchAllName ++ ['_'], c ∈ case.write (words t) := by
    intro c hc
    rw [heq, List.append_cons]
    exact List.mem_append_left _ hc
  cases case with
  | snake =>
    rcases hjoin 'U' (hmem 'U' (by decide)) with hmark | hlow
    · exact absurd hmark (by decide)
    · exact absurd hlow (by decide)
  | screamingSnake =>
    obtain ⟨d, hd, hupper⟩ := List.mem_map.mp (hmem 'n' (by decide))
    have hname := joinWith_chars hareWords d hd
    simp only [isNameChar, Bool.or_eq_true, beq_iff_eq] at hname
    rcases hname with hname | rfl
    · have hlow := toUpper_isLower hname
      rw [hupper] at hlow
      exact absurd hlow (by decide)
    · exact absurd hupper (by decide)
  | pascal => exact mark_not_mem_write (Or.inl rfl) hareWords (hmem '_' (by decide))
  | camel => exact mark_not_mem_write (Or.inr rfl) hareWords (hmem '_' (by decide))

theorem not_numbered_catchAll (h : v.natural case t = some base) :
    ¬ IsNumbered Target.catchAllName base := by
  rintro ⟨digits, hne, hdigits, rfl⟩
  obtain ⟨hsome, havoid⟩ := natural_eq_some.mp h
  have hwords : words t ≠ [] := by
    intro hnone
    rw [identifier, hnone] at hsome
    cases case <;> exact hsome rfl
  rw [avoid] at havoid
  split at havoid
  · -- a word of the language gets an underscore at its end, which is no digit
    have hlast := congrArg List.getLast? havoid
    rw [List.getLast?_append_of_ne_nil _ (by simp), List.getLast?_append_of_ne_nil _ (by simp),
      List.getLast?_cons_of_ne_nil hne] at hlast
    exact absurd (hdigits '_' (List.mem_of_getLast? hlast.symm)) (by decide)
  · rw [identifier, guardDigit_eq] at havoid
    split at havoid
    · cases havoid
    · exact write_ne_numbered_catchAll hwords digits havoid

/-- A natural name meets the catch-all only by being the same. -/
theorem collides_catchAll (h : v.natural case t = some base) (hne : base ≠ Target.catchAllName) :
    collides [Target.catchAllName] base = false := by
  rw [Bool.eq_false_iff, Ne, collides_iff]
  rintro (hmem | ⟨base', hmem, hnumbered⟩)
  · exact hne (List.mem_singleton.mp hmem)
  · rw [List.mem_singleton.mp hmem] at hnumbered
    exact not_numbered_catchAll h hnumbered

/-! ## Smaller values -/

/-- The value comes before a text. -/
def below (bound : Text) (m : Member) : Bool := !Text.le bound m.value

/-- In canonical order the members below a bound come first. -/
theorem filter_below_append {ms : List Member} (bound : Text)
    (h : ms.Pairwise fun a b => valueLe a b = true) :
    ms = ms.filter (below bound) ++ ms.filter (fun m => !below bound m) := by
  induction ms with
  | nil => rfl
  | cons m ms ih =>
    obtain ⟨hm, hms⟩ := List.pairwise_cons.mp h
    by_cases hbelow : below bound m = true
    · rw [List.filter_cons_of_pos hbelow, List.filter_cons_of_neg (by simp [hbelow]),
        List.cons_append, ← ih hms]
    · have habove : ∀ m' ∈ m :: ms, ¬ below bound m' = true := by
        rw [List.forall_mem_cons]
        refine ⟨hbelow, fun m' hm' => ?_⟩
        simp only [below, Bool.not_eq_true, Bool.not_eq_false'] at hbelow ⊢
        exact Text.le_transitive _ _ _ hbelow (hm m' hm')
      rw [List.filter_eq_nil_iff.mpr habove, List.nil_append, eq_comm]
      exact List.filter_eq_self.mpr fun m' hm' => by simpa using habove m' hm'

theorem nameAll_values (v : Vocabulary) (case : Case) (reserved used : List Text)
    (ms : List Member) :
    (v.nameAll case reserved used ms).map (·.value) = ms.map (·.value) := by
  have hbare := congrArg (List.map (·.value)) (nameAll_bare v case reserved used ms)
  rwa [List.map_map, List.map_map] at hbare

theorem forall_mem_nameAll {P : Text → Prop} {ms : List Member} (h : ∀ m ∈ ms, P m.value) :
    ∀ m ∈ v.nameAll case reserved used ms, P m.value := by
  rw [← List.forall_mem_map, nameAll_values, List.forall_mem_map]
  exact h

/-- The members below a bound are named as if there were no others. -/
theorem nameAll_filter_below {ms : List Member} (bound : Text)
    (h : ms.Pairwise fun a b => valueLe a b = true) :
    (v.nameAll case reserved used ms).filter (below bound) =
      v.nameAll case reserved used (ms.filter (below bound)) := by
  have hbelow : ∀ m ∈ v.nameAll case reserved used (ms.filter (below bound)),
      below bound m = true :=
    forall_mem_nameAll (P := fun value => (!Text.le bound value) = true)
      fun m hm => (List.mem_filter.mp hm).2
  have habove : ∀ used, ∀ m ∈ v.nameAll case reserved used
      (ms.filter fun m => !below bound m), ¬ below bound m = true := fun used =>
    forall_mem_nameAll (P := fun value => ¬ (!Text.le bound value) = true)
      fun m hm => by simpa [below] using (List.mem_filter.mp hm).2
  conv => lhs; rw [filter_below_append bound h]
  rw [nameAll_append, List.filter_append, List.filter_eq_self.mpr hbelow,
    List.filter_eq_nil_iff.mpr (habove _), List.append_nil]

/-- What stands below a bound is sorted in one way, whatever stands above it. -/
theorem sortMembers_filter_below {members members' : List Member} {bound : Text}
    (hdistinct : (members.map (·.value)).Nodup)
    (hperm : (members'.filter (below bound)).Perm (members.filter (below bound))) :
    (sortMembers members').filter (below bound) = (sortMembers members).filter (below bound) := by
  have hall : ((sortMembers members').filter (below bound)).Perm
      ((sortMembers members).filter (below bound)) :=
    ((sortMembers_perm members').filter _).trans
      (hperm.trans ((sortMembers_perm members).filter _).symm)
  have hsorted (ms : List Member) :
      ((sortMembers ms).filter (below bound)).Pairwise fun a b => valueLe a b = true :=
    (sortMembers_pairwise ms).filter _
  refine hall.eq_of_pairwise ?_ (hsorted members') (hsorted members)
  intro a b ha hb hab hba
  have ha' := (sortMembers_perm members).mem_iff.mp (List.mem_filter.mp (hall.mem_iff.mp ha)).1
  have hb' := (sortMembers_perm members).mem_iff.mp (List.mem_filter.mp hb).1
  exact List.inj_on_of_nodup_map hdistinct ha' hb' (Text.le_antisymmetric hab hba)

/-! ## All members of an enum -/

theorem deriveMembers_natural {members named : List Member} {s : Sanitizer}
    (hrun : deriveMembers members s case [Target.catchAllName] = .ok named)
    (hdistinct : (naturalNames s.vocabulary case members).Nodup)
    (hapart : Target.catchAllName ∉ naturalNames s.vocabulary case members) :
    named = (sortMembers members).map fun m =>
      m.withIdentifier (s.vocabulary.natural case m.source.shown) := by
  have hsorted := sortMembers_perm members
  rw [deriveMembers_nameAll hrun]
  refine nameAll_of_distinct ((hsorted.filterMap _).nodup_iff.mpr hdistinct) ?_
  intro m hm base hbase
  have hne : base ≠ Target.catchAllName := by
    rintro rfl
    exact hapart (List.mem_filterMap.mpr ⟨m, hsorted.mem_iff.mp hm, hbase⟩)
  rw [mem_startWith, List.mem_singleton]
  exact ⟨hne, collides_catchAll hbase hne⟩

theorem deriveMembers_filter_below {members members' named named' : List Member}
    {s s' : Sanitizer} {bound : Text} (hwords : s'.vocabulary = s.vocabulary)
    (hrun : deriveMembers members s case reserved = .ok named)
    (hrun' : deriveMembers members' s' case reserved = .ok named')
    (hdistinct : (members.map (·.value)).Nodup)
    (hperm : (members'.filter (below bound)).Perm (members.filter (below bound))) :
    named'.filter (below bound) = named.filter (below bound) := by
  -- a start depends on the reserved names alone
  have hstart : (s'.startWith reserved).used = (s.startWith reserved).used := by
    have hreset : s'.reset = s.reset := by rw [reset, reset, hwords]
    rw [startWith, startWith, hreset]
  rw [deriveMembers_nameAll hrun, deriveMembers_nameAll hrun', hwords, hstart,
    nameAll_filter_below bound (sortMembers_pairwise members),
    nameAll_filter_below bound (sortMembers_pairwise members'),
    sortMembers_filter_below hdistinct hperm]

/-- Whatever the words of the language are and whatever the sanitizer did before, members
whose natural names are different and not the catch-all have these names; and members
with distinct values keep their names when members with greater values come, go or change. -/
theorem member_names_stable (s : Sanitizer) (case : Case) {members : List Member}
    (htext : ∀ m ∈ members, ∃ t, m.source = .str t) :
    ∃ named, deriveMembers members s case [Target.catchAllName] = .ok named ∧
      ((naturalNames s.vocabulary case members).Nodup →
        Target.catchAllName ∉ naturalNames s.vocabulary case members →
        named = (sortMembers members).map fun m =>
          m.withIdentifier (s.vocabulary.natural case m.source.shown)) ∧
      ((members.map (·.value)).Nodup → ∀ bound members' named' (s' : Sanitizer),
        (members'.filter (below bound)).Perm (members.filter (below bound)) →
        s'.vocabulary = s.vocabulary →
        deriveMembers members' s' case [Target.catchAllName] = .ok named' →
        named'.filter (below bound) = named.filter (below bound)) := by
  have hrun := deriveMembers_of_texts htext s case [Target.catchAllName]
  refine ⟨_, hrun, deriveMembers_natural hrun, ?_⟩
  intro hdistinct bound members' named' s' hperm hwords hrun'
  exact deriveMembers_filter_below hwords hrun hrun' hdistinct hperm

/-- A sanitizer that was used before, and an enum whose last member makes way for two others,
one of them with the words of a smaller one. -/
theorem smaller_members_keep_names :
    ∃ named, deriveMembers [.ofValue "!", .ofValue "a-b", .ofValue "ca"]
        ⟨Target.Rust.vocabulary, ["Ca"], []⟩ .pascal [Target.catchAllName] = .ok named ∧
      named.map (·.identifier) = [none, some "AB".toList, some "Ca".toList] ∧
      ∀ named', deriveMembers [.ofValue "unknown", .ofValue "a-b", .ofValue "~a b", .ofValue "!"]
          (ofVocabulary Target.Rust.vocabulary) .pascal [Target.catchAllName] = .ok named' →
        named'.filter (below "b") = named.filter (below "b") := by
  have htext : ∀ m ∈ [Member.ofValue "!", .ofValue "a-b", .ofValue "ca"],
      ∃ t, m.source = .str t := by
    intro m hm
    simp only [List.mem_cons, List.not_mem_nil, or_false] at hm
    rcases hm with rfl | rfl | rfl <;> exact ⟨_, rfl⟩
  obtain ⟨named, hrun, hnatural, hstable⟩ := member_names_stable
    ⟨Target.Rust.vocabulary, ["Ca"], []⟩ .pascal htext
  refine ⟨named, hrun, ?_, fun named' => hstable (by decide) "b" _ named' _ ?_ rfl⟩
  · rw [hnatural (by decide) (by decide), sortMembers_of_pairwise (by decide)]
    rfl
  · exact List.reverse_perm [Member.ofValue "!", .ofValue "a-b"]

end CatchAll.Naming
