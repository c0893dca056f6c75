import CatchAll.Files.Tree
import CatchAll.Proofs.Outcome

/-!
# Trees that differ in what a file holds

Writing to a file that is there changes its bytes and nothing else: every walk ends
where it ended before, and what stands at any other place is the same.
-/

set_option autoImplicit false

namespace CatchAll.Files.Tree

open scoped Text

variable {tree tree' : Tree} {place : List Text}

theorem entry?_cons (tree : Tree) (known : List Text) (e : Entry) (steps : List Text) :
    entry? ((known, e) :: tree) steps = if known = steps then some e else tree.entry? steps := by
  by_cases h : known = steps <;> simp [Tree.entry?, h]

theorem entry?_filter {steps : List Text} (h : steps ≠ place) :
    entry? (tree.filter (·.1 ≠ place)) steps = tree.entry? steps := by
  induction tree with
  | nil => rfl
  | cons known tree ih =>
    obtain ⟨here, e⟩ := known
    by_cases hat : here = place
    · rw [List.filter_cons_of_neg (by simp [hat]), ih, entry?_cons, if_neg (hat ▸ Ne.symm h)]
    · rw [List.filter_cons_of_pos (by simp [hat]), entry?_cons, entry?_cons, ih]

theorem entry?_put (tree : Tree) (place : List Text) (bytes : ByteArray) (steps : List Text) :
    entry? (tree.put place bytes) steps =
      if place = steps then some (.file bytes) else tree.entry? steps := by
  rw [put, entry?_cons]
  split
  · rfl
  · rename_i hne
    exact entry?_filter (Ne.symm hne)

theorem put_put (tree : Tree) (place : List Text) (first second : ByteArray) :
    (tree.put place first).put place second = tree.put place second := by
  rw [put, put, put, List.filter_cons_of_neg (by simp), List.filter_filter]
  simp

theorem append_empty {old : ByteArray} (h : tree.entry? place = some (.file old)) :
    tree.append place .empty = tree := by
  rw [append, h]
  rfl

theorem append_file {old bytes : ByteArray} (h : tree.entry? place = some (.file old))
    (hbytes : bytes ≠ .empty) : tree.append place bytes = tree.put place (old ++ bytes) := by
  have hsize : bytes.isEmpty = false :=
    beq_false_of_ne fun hzero => hbytes (ByteArray.size_eq_zero_iff.mp hzero)
  rw [append, h]
  simp only [hsize, Bool.false_eq_true, if_false]

theorem append_append {old : ByteArray} (h : tree.entry? place = some (.file old))
    (first second : ByteArray) :
    (tree.append place first).append place second = tree.append place (first ++ second) := by
  by_cases hfirst : first = .empty
  · subst hfirst
    rw [append_empty h, ByteArray.empty_append]
  · have hput : entry? (tree.put place (old ++ first)) place = some (.file (old ++ first)) := by
      rw [entry?_put, if_pos rfl]
    rw [append_file h hfirst]
    by_cases hsecond : second = .empty
    · subst hsecond
      rw [append_empty hput, ByteArray.append_empty, append_file h hfirst]
    · have hboth : first ++ second ≠ .empty := by
        intro hempty
        have hsize := congrArg ByteArray.size hempty
        rw [ByteArray.size_append, ByteArray.size_empty, Nat.add_eq_zero_iff] at hsize
        exact hfirst (ByteArray.size_eq_zero_iff.mp hsize.1)
      rw [append_file hput hsecond, append_file h hboth, put_put, ByteArray.append_assoc]

/-- Two trees with the same places and the same directories. -/
structure SameShape (tree tree' : Tree) : Prop where
  isDirectory : ∀ steps, tree'.isDirectory steps = tree.isDirectory steps
  isSome : ∀ steps, (tree'.entry? steps).isSome = (tree.entry? steps).isSome

/-- A place that is not known is not among the places. -/
theorem any_filter (tree : Tree) (p : List Text → Bool) (h : p place = false) :
    (tree.filter (·.1 ≠ place)).any (fun known => p known.1) = tree.any fun known => p known.1 := by
  induction tree with
  | nil => rfl
  | cons known tree ih =>
    by_cases hat : known.1 = place
    · rw [List.filter_cons_of_neg (by simp [hat]), ih, List.any_cons, hat, h, Bool.false_or]
    · rw [List.filter_cons_of_pos (by simp [hat]), List.any_cons, List.any_cons, ih]

theorem any_of_known {e : Entry} (h : tree.entry? place = some e) {p : List Text → Bool}
    (hp : p place = true) : tree.any (fun known => p known.1) = true := by
  obtain ⟨known, hknown, -⟩ := Option.map_eq_some_iff.mp h
  have hat : known.1 = place := by simpa using List.find?_some hknown
  exact List.any_eq_true.mpr ⟨known, List.mem_of_find?_eq_some hknown, hat ▸ hp⟩

theorem any_put {e : Entry} (h : tree.entry? place = some e) (bytes : ByteArray)
    (p : List Text → Bool) :
    (tree.put place bytes).any (fun known => p known.1) = tree.any fun known => p known.1 := by
  rw [put, List.any_cons]
  cases hp : p place with
  | true => rw [any_of_known h hp, Bool.true_or]
  | false => rw [any_filter tree p hp, Bool.false_or]

theorem sameShape_refl (tree : Tree) : SameShape tree tree := ⟨fun _ => rfl, fun _ => rfl⟩

theorem sameShape_put {old : ByteArray} (h : tree.entry? place = some (.file old))
    (bytes : ByteArray) : SameShape tree (tree.put place bytes) := by
  constructor
  · intro steps
    rw [isDirectory, isDirectory, entry?_put]
    by_cases hat : place = steps
    · subst hat
      rw [if_pos rfl, h]
    · rw [if_neg hat, any_put h bytes]
  · intro steps
    rw [entry?_put]
    by_cases hat : place = steps
    · subst hat
      rw [if_pos rfl, h]
      rfl
    · rw [if_neg hat]

theorem sameShape_append {old : ByteArray} (h : tree.entry? place = some (.file old))
    (bytes : ByteArray) : SameShape tree (tree.append place bytes) := by
  rw [append, h]
  dsimp only
  split
  · exact sameShape_refl tree
  · exact sameShape_put h _

namespace SameShape

theorem walkFrom (h : SameShape tree tree') (place steps : List Text) :
    tree'.walkFrom place steps = tree.walkFrom place steps := by
  induction steps generalizing place with
  | nil => rfl
  | cons step rest ih => simp only [Tree.walkFrom, h.isDirectory, h.isSome, ih]

theorem walk (h : SameShape tree tree') (steps : List Text) :
    tree'.walk steps = tree.walk steps := by
  rw [Tree.walk, Tree.walk, h.walkFrom]

theorem target (h : SameShape tree tree') (steps : List Text) :
    tree'.target steps = tree.target steps := by
  simp only [Tree.target, h.walk, h.isDirectory]

/-- What is missing from one of them is missing from the other one, for the same reason. -/
theorem missing (h : SameShape tree tree') {p : Path} {why : Outside}
    (hmissing : tree.probe p = .missing why) : tree'.probe p = .missing why := by
  rw [probe, probeSteps] at hmissing ⊢
  rw [h.walk]
  cases hwalk : tree.walk p.key with
  | error o =>
    rw [hwalk] at hmissing
    exact hmissing
  | ok place =>
    rw [hwalk] at hmissing
    have hsome := h.isSome place
    dsimp only at hmissing ⊢
    cases hentry : tree.entry? place with
    | some e =>
      rw [hentry] at hmissing
      cases e with
      | file bytes => cases hmissing
      | directory =>
        -- a known directory is no missing place
        have hdirectory : tree.isDirectory place = true := by
          rw [Tree.isDirectory, hentry, Bool.or_true]
        rw [hdirectory] at hmissing
        cases hmissing
    | none =>
      rw [hentry] at hmissing hsome
      rw [Option.isSome_none, Option.isSome_eq_false_iff, Option.isNone_iff_eq_none] at hsome
      rw [hsome, h.isDirectory]
      exact hmissing

theorem symm (h : SameShape tree tree') : SameShape tree' tree :=
  ⟨fun steps => (h.isDirectory steps).symm, fun steps => (h.isSome steps).symm⟩

end SameShape

end CatchAll.Files.Tree
