import CatchAll.Proofs.Outcome
import CatchAll.Proofs.Schema.CanonicalOrder
import CatchAll.Schema.Document
import Mathlib.Data.List.Perm.Basic

/-!
# Loading documents that are ordered differently

An entry is read member by member, so members in another order give the same
members in that order. The entries themselves are put in the order of their
names first. Two documents that list the same enums in different orders
therefore load alike: the same enums one after the other, each with the same
canonical members, and the same records in the journal.
-/

set_option autoImplicit false

namespace CatchAll.Schema

open scoped Text
open Outcome

/-- A definition with its members in canonical order. -/
def Definition.canonical (d : Definition) : Definition :=
  { d with members := sortMembers d.members }

/-! ## One entry -/

theorem checkDistinct_ok_iff (typeName : Text) (seen values : List Text) :
    checkDistinct typeName seen (values.map .str) = .ok () ↔
      values.Nodup ∧ ∀ v ∈ values, v ∉ seen := by
  induction values generalizing seen with
  | nil => simp [checkDistinct]
  | cons v values ih =>
    rw [List.map_cons, checkDistinct]
    split
    · simp_all
    · rw [ih, List.nodup_cons]
      constructor
      · rintro ⟨hnodup, hfresh⟩
        refine ⟨⟨fun hv => hfresh v hv (by simp), hnodup⟩, ?_⟩
        intro w hw
        rcases List.mem_cons.mp hw with rfl | hw
        · assumption
        · exact fun hseen => hfresh w hw (List.mem_cons_of_mem v hseen)
      · rintro ⟨⟨hv, hnodup⟩, hfresh⟩
        refine ⟨hnodup, fun w hw hmem => ?_⟩
        rcases List.mem_cons.mp hmem with rfl | hmem
        · exact hv hw
        · exact hfresh w (List.mem_cons_of_mem v hw) hmem

theorem checkValues_ok_iff (typeName : Text) (values : List Text) :
    checkValues typeName (values.map .str) = .ok () ↔ values.Nodup ∧ values ≠ [] := by
  have hdistinct := checkDistinct_ok_iff typeName [] values
  simp only [List.not_mem_nil, not_false_eq_true, implies_true, and_true] at hdistinct
  rw [checkValues, bind_eq_ok, ← hdistinct]
  constructor
  · rintro ⟨⟨⟩, hok, hsome⟩
    refine ⟨hok, ?_⟩
    rintro rfl
    cases hsome
  · rintro ⟨hok, hsome⟩
    refine ⟨(), hok, ?_⟩
    cases values with
    | nil => exact absurd rfl hsome
    | cons v values => rfl

/-- What it takes to read an entry: a list of members that can all be read, at least one
of them, and no value twice. -/
theorem Definition.ofJson_ok_iff (typeName : Text) (entry : Json) (d : Definition) :
    Definition.ofJson typeName entry = .ok d ↔
      ∃ raw, rawMembers typeName entry = .ok (raw, d.documentation) ∧ d.name = typeName ∧
        List.Forall₂ (fun r m => Member.ofJson typeName r = .ok m) raw d.members ∧
        (d.members.map (·.value)).Nodup ∧ d.members ≠ [] := by
  have hvalues : ∀ ms : List Member, checkValues typeName (ms.map fun m => .str m.value) = .ok () ↔
      (ms.map (·.value)).Nodup ∧ ms ≠ [] := by
    intro ms
    have h := checkValues_ok_iff typeName (ms.map (·.value))
    rwa [List.map_map, ne_eq, List.map_eq_nil_iff] at h
  rw [Definition.ofJson, bind_eq_ok]
  constructor
  · rintro ⟨⟨raw, documentation⟩, hraw, hread⟩
    obtain ⟨members, hmembers, hread⟩ := bind_eq_ok.mp hread
    obtain ⟨⟨⟩, hchecked, hdone⟩ := bind_eq_ok.mp hread
    obtain rfl : (⟨typeName, members, documentation⟩ : Definition) = d := Except.ok.inj hdone
    exact ⟨raw, hraw, rfl, (mapM_eq_ok _ _ _).mp hmembers, (hvalues members).mp hchecked⟩
  · rintro ⟨raw, hraw, rfl, hmembers, hchecked⟩
    refine ⟨(raw, d.documentation), hraw, ?_⟩
    refine bind_eq_ok.mpr ⟨d.members, (mapM_eq_ok _ _ _).mpr hmembers, ?_⟩
    exact bind_eq_ok.mpr ⟨(), (hvalues d.members).mpr hchecked, rfl⟩

/-- Two entries that differ in the order of their members only. -/
inductive SameMembers : Json → Json → Prop
  | list {raw raw' : List Json} (hmove : raw.Perm raw') : SameMembers (.arr raw) (.arr raw')
  | object {fields : Fields} {raw raw' : List Json}
      (hfield : Table.get? "members" fields = some (.arr raw)) (hmove : raw.Perm raw') :
      SameMembers (.obj fields) (.obj (Table.put "members" (.arr raw') fields))

theorem rawMembers_reordered {typeName : Text} {entry entry' documentation : Json}
    {raw : List Json} (hsame : SameMembers entry entry')
    (h : rawMembers typeName entry = .ok (raw, documentation)) :
    ∃ raw', rawMembers typeName entry' = .ok (raw', documentation) ∧ raw.Perm raw' := by
  cases hsame with
  | list hmove =>
    obtain ⟨rfl, rfl⟩ := Prod.mk.inj (Except.ok.inj h)
    exact ⟨_, rfl, hmove⟩
  | @object fields _ raw' hfield hmove =>
    have hmembers : Table.get? "members" (Table.put "members" (.arr raw') fields) =
        some (.arr raw') := by
      rw [Table.get?_put, if_pos rfl]
    have hdocs : Table.get? "documentation" (Table.put "members" (.arr raw') fields) =
        Table.get? "documentation" fields := by
      rw [Table.get?_put, if_neg (by decide)]
    simp only [rawMembers, hfield] at h
    obtain ⟨rfl, rfl⟩ := Prod.mk.inj (Except.ok.inj h)
    exact ⟨raw', by simp only [rawMembers, hmembers, hdocs], hmove⟩

theorem Definition.ofJson_reordered {typeName : Text} {entry entry' : Json} {d : Definition}
    (hsame : SameMembers entry entry') (h : Definition.ofJson typeName entry = .ok d) :
    ∃ d', Definition.ofJson typeName entry' = .ok d' ∧ d'.canonical = d.canonical := by
  obtain ⟨raw, hraw, hname, hmembers, hnodup, hsome⟩ := (ofJson_ok_iff _ _ _).mp h
  obtain ⟨raw', hraw', hmove⟩ := rawMembers_reordered hsame hraw
  obtain ⟨members', hmembers', hmove'⟩ := List.perm_comp_forall₂ hmove.symm hmembers
  have hnodup' : (members'.map (·.value)).Nodup := (hmove'.map _).nodup_iff.mpr hnodup
  refine ⟨{ d with members := members' }, (ofJson_ok_iff _ _ _).mpr ?_, ?_⟩
  · refine ⟨raw', hraw', hname, hmembers', hnodup', ?_⟩
    rintro rfl
    exact hsome hmove'.nil_eq.symm
  · rw [canonical, canonical, sortMembers_eq_of_perm hmove' hnodup']

/-! ## All entries -/

def SameEntry (a b : Text × Json) : Prop := a.1 = b.1 ∧ SameMembers a.2 b.2

theorem sortedEntries_pairwise (entries : Fields) :
    (sortedEntries entries).Pairwise fun a b => Text.le a.1 b.1 = true :=
  List.pairwise_mergeSort (fun a b c => Text.le_transitive a.1 b.1 c.1)
    (fun a b => Text.le_linear a.1 b.1) entries

/-- Distinct names leave one order only. -/
theorem sortedEntries_eq_of_perm {entries sorted : Fields} (hmove : sorted.Perm entries)
    (hdistinct : (Table.keys entries).Nodup)
    (hsorted : sorted.Pairwise fun a b => Text.le a.1 b.1 = true) :
    sorted = sortedEntries entries := by
  have hperm : (sortedEntries entries).Perm entries := List.mergeSort_perm _ _
  refine (hmove.trans hperm.symm).eq_of_pairwise ?_ hsorted (sortedEntries_pairwise entries)
  intro a b ha hb hab hba
  exact List.inj_on_of_nodup_map hdistinct (hmove.mem_iff.mp ha) (hperm.mem_iff.mp hb)
    (Text.le_antisymmetric hab hba)

/-- The names say where an entry stands, so the same entries stand side by side. -/
theorem sortedEntries_reordered {entries middle entries' : Fields}
    (hdistinct : (Table.keys entries).Nodup) (hmove : entries.Perm middle)
    (hsame : List.Forall₂ SameEntry middle entries') :
    List.Forall₂ SameEntry (sortedEntries entries) (sortedEntries entries') := by
  have hnames : ∀ {a b : Fields}, List.Forall₂ SameEntry a b → Table.keys a = Table.keys b := by
    intro a b h
    have hkeys : List.Forall₂ (· = ·) (Table.keys a) (Table.keys b) := by
      rw [Table.keys, Table.keys, List.forall₂_map_left_iff, List.forall₂_map_right_iff]
      exact h.imp fun _ _ h => h.1
    rwa [List.forall₂_eq_eq_eq] at hkeys
  have hsorted : (sortedEntries entries).Perm middle := (List.mergeSort_perm _ _).trans hmove
  obtain ⟨aligned, haligned, hmove'⟩ := List.perm_comp_forall₂ hsorted hsame
  have hdistinct' : (Table.keys entries').Nodup := by
    rw [← hnames hsame]
    exact (hmove.map _).nodup_iff.mp hdistinct
  have hpairwise : aligned.Pairwise fun a b => Text.le a.1 b.1 = true := by
    have hkeys : (Table.keys (sortedEntries entries)).Pairwise fun a b => Text.le a b = true :=
      List.pairwise_map.mpr (sortedEntries_pairwise entries)
    rw [hnames haligned] at hkeys
    exact List.pairwise_map.mp hkeys
  rwa [sortedEntries_eq_of_perm hmove' hdistinct' hpairwise] at haligned

theorem loadEntries_cons (name : Text) (entry : Json) (rest : Fields) (j : Journal) :
    (ExceptT.run (loadEntries ((name, entry) :: rest))).run j =
      match Definition.ofJson name entry with
      | .error e => (.error e, j)
      | .ok d =>
        let record : Record := ⟨.debug, speaker,
          "Loaded enum " ++ name ++ " with " ++ Text.ofNat d.members.length ++ " members", none⟩
        match (ExceptT.run (loadEntries rest)).run (j.push record) with
        | (.ok ds, j') => (.ok (d :: ds), j')
        | (.error e, j') => (.error e, j') := by
  rw [loadEntries, journaled_bind]
  cases Definition.ofJson name entry with
  | error e => rfl
  | ok d =>
    show (ExceptT.run (note .debug speaker _ >>= fun _ => loadEntries rest >>= _)).run j = _
    rw [journaled_bind]
    show (ExceptT.run (loadEntries rest >>= _)).run _ = _
    rw [journaled_bind]
    dsimp only
    cases (ExceptT.run (loadEntries rest)).run _ with
    | mk outcome j' => cases outcome <;> rfl

/-- No enum that was read has a value twice. -/
theorem loadEntries_distinct {entries : Fields} {j j' : Journal} {ds : List Definition}
    (h : (ExceptT.run (loadEntries entries)).run j = (.ok ds, j')) :
    ∀ d ∈ ds, (d.members.map (·.value)).Nodup := by
  induction entries generalizing j ds with
  | nil =>
    cases h
    exact List.forall_mem_nil _
  | cons entry entries ih =>
    obtain ⟨name, entry⟩ := entry
    rw [loadEntries_cons] at h
    cases hd : Definition.ofJson name entry with
    | error e =>
      rw [hd] at h
      cases h
    | ok d =>
      rw [hd] at h
      dsimp only at h
      split at h
      · rename_i rest j₁ hrest
        cases h
        obtain ⟨-, -, -, -, hdistinct, -⟩ := (Definition.ofJson_ok_iff name entry d).mp hd
        exact List.forall_mem_cons.mpr ⟨hdistinct, ih hrest⟩
      · cases h

theorem length_of_canonical_eq {d d' : Definition} (h : d'.canonical = d.canonical) :
    d'.members.length = d.members.length := by
  have hmembers : sortMembers d'.members = sortMembers d.members :=
    congrArg Definition.members h
  rw [← (sortMembers_perm d'.members).length_eq, hmembers, (sortMembers_perm d.members).length_eq]

theorem loadEntries_reordered {entries entries' : Fields}
    (hsame : List.Forall₂ SameEntry entries entries') {j j' : Journal} {ds : List Definition}
    (h : (ExceptT.run (loadEntries entries)).run j = (.ok ds, j')) :
    ∃ ds', (ExceptT.run (loadEntries entries')).run j = (.ok ds', j') ∧
      ds'.map Definition.canonical = ds.map Definition.canonical := by
  induction hsame generalizing j ds with
  | nil => exact ⟨ds, h, rfl⟩
  | @cons a b entries entries' hab _ ih =>
    obtain ⟨name, entry⟩ := a
    obtain ⟨name', entry'⟩ := b
    obtain ⟨rfl, hentry⟩ := hab
    rw [loadEntries_cons] at h ⊢
    cases hd : Definition.ofJson name entry with
    | error e =>
      rw [hd] at h
      cases h
    | ok d =>
      obtain ⟨d', hd', hcanonical⟩ := Definition.ofJson_reordered hentry hd
      rw [hd] at h
      simp only [hd', length_of_canonical_eq hcanonical] at h ⊢
      split at h
      · rename_i rest j₁ hrest
        obtain ⟨hds, rfl⟩ := Prod.mk.inj h
        obtain rfl : d :: rest = ds := Except.ok.inj hds
        obtain ⟨rest', hrest', hmap⟩ := ih hrest
        exact ⟨d' :: rest', by rw [hrest'], by rw [List.map_cons, hcanonical, hmap, List.map_cons]⟩
      · cases h

/-! ## Documents -/

/-- Two documents that differ in the order of the enums and in the order of the members of
each enum. The names of the enums are distinct, as the keys of an object are. -/
inductive Reordered : Json → Json → Prop
  | mk {fields entries middle entries' : Fields} (hdistinct : (Table.keys entries).Nodup)
      (hfield : Table.get? "enums" fields = some (.obj entries)) (hmove : entries.Perm middle)
      (hsame : List.Forall₂ SameEntry middle entries') :
      Reordered (.obj fields) (.obj (Table.put "enums" (.obj entries') fields))

theorem load_obj {fields entries : Fields}
    (hfield : Table.get? "enums" fields = some (.obj entries)) (j : Journal) :
    (ExceptT.run (load (.obj fields))).run j =
      (ExceptT.run (loadEntries (sortedEntries entries))).run
        (if entries.isEmpty then
          j.push ⟨.warning, speaker, "Schema document defines no enums", none⟩ else j) := by
  have hentries : entriesOf (.obj fields) = .ok entries := by
    simp only [entriesOf, hfield]
  rw [load, hentries, journaled_bind]
  cases entries with
  | nil => rfl
  | cons entry entries => rfl

theorem load_distinct {document : Json} {j j' : Journal} {ds : List Definition}
    (h : (ExceptT.run (load document)).run j = (.ok ds, j')) :
    ∀ d ∈ ds, (d.members.map (·.value)).Nodup := by
  obtain ⟨entries, j₁, -, h⟩ := journaled_bind_ok.mp h
  dsimp only at h
  split at h
  · obtain ⟨-, j₂, -, h⟩ := journaled_bind_ok.mp h
    exact loadEntries_distinct h
  · exact loadEntries_distinct h

/-- A document loads if the other does: the same enums up to the order of their members. -/
theorem load_reordered {document document' : Json} (hsame : Reordered document document')
    {j j' : Journal} {ds : List Definition}
    (h : (ExceptT.run (load document)).run j = (.ok ds, j')) :
    ∃ ds', (ExceptT.run (load document')).run j = (.ok ds', j') ∧
      ds'.map Definition.canonical = ds.map Definition.canonical := by
  obtain @⟨fields, entries, middle, entries', hdistinct, hfield, hmove, hsame⟩ := hsame
  have hfield' : Table.get? "enums" (Table.put "enums" (.obj entries') fields) =
      some (.obj entries') := by
    rw [Table.get?_put, if_pos rfl]
  have hempty : entries'.isEmpty = entries.isEmpty := by
    rw [Bool.eq_iff_iff, List.isEmpty_iff_length_eq_zero, List.isEmpty_iff_length_eq_zero,
      ← hsame.length_eq, hmove.length_eq]
  rw [load_obj hfield] at h
  rw [load_obj hfield', hempty]
  exact loadEntries_reordered (sortedEntries_reordered hdistinct hmove hsame) h

end CatchAll.Schema
