import CatchAll.Proofs.Naming.Identifier
import Mathlib.Data.List.SplitBy

/-!
# Words read back

A name without digits tells which words it was written from, for each naming case:
underscores or capitals show where a word begins. So for a given name there is at
most one list of words that becomes it. Words with digits do not have this: a word
that begins with a digit has no capital when it is written.
-/

set_option autoImplicit false

namespace CatchAll.Naming

open scoped Text

/-- Words of small letters alone. -/
def AreLettered (ws : List Text) : Prop := ∀ w ∈ ws, w ≠ [] ∧ ∀ c ∈ w, c.isLower = true

instance (ws : List Text) : Decidable (AreLettered ws) :=
  decidable_of_iff (ws.all fun w => !w.isEmpty && w.all Char.isLower) (by simp [AreLettered])

def betweenMarks (t : Text) : List Text := (Text.cut (· == '_') t).filter (· ≠ [])

/-- The parts of a text that begin at its capitals. -/
def atCapitals (t : Text) : List Text := t.splitBy fun _ b => !b.isUpper

/-- The words that a name is written from. -/
def Case.read : Case → Text → List Text
  | .snake, t => betweenMarks t
  | .screamingSnake, t => betweenMarks (lowerWord t)
  | .pascal, t => (atCapitals t).map lowerWord
  | .camel, t => (atCapitals t).map lowerWord

/-! ## Small letters -/

theorem isAlphanum_of_isLower {c : Char} (h : c.isLower = true) : c.isAlphanum = true := by
  rw [isAlphanum_eq, h, Bool.or_true, Bool.true_or]

theorem isLower_spec {c : Char} (h : c.isLower = true) :
    c.isUpper = false ∧ c.toLower = c ∧ c.toUpper.toLower = c ∧ c.toUpper.isUpper = true :=
  forall_isAlphanum (P := fun c => c.isLower = true →
    c.isUpper = false ∧ c.toLower = c ∧ c.toUpper.toLower = c ∧ c.toUpper.isUpper = true)
    (by decide) c (isAlphanum_of_isLower h) h

theorem isLower_toLower {c : Char} (h : c.isAlphanum = true) (hdigit : c.isDigit = false) :
    c.toLower.isLower = true :=
  forall_isAlphanum (P := fun c => c.isDigit = false → c.toLower.isLower = true)
    (by decide) c h hdigit

/-- Letters that come from a text without digits are small letters. -/
theorem isLower_of_mem_letters {t : Text} (h : ∀ c ∈ t, c.isDigit = false) :
    ∀ c ∈ letters t, c.isLower = true := by
  intro c hc
  obtain ⟨d, hd, rfl⟩ := List.mem_map.mp hc
  obtain ⟨hmem, halnum⟩ := List.mem_filter.mp hd
  exact isLower_toLower halnum (h d hmem)

theorem lowerWord_of_isLower {w : Text} (h : ∀ c ∈ w, c.isLower = true) : lowerWord w = w :=
  (List.map_congr_left fun c hc => (isLower_spec (h c hc)).2.1).trans (List.map_id w)

theorem lowerWord_capitalize {w : Text} (h : ∀ c ∈ w, c.isLower = true) :
    lowerWord (capitalize w) = w := by
  cases w with
  | nil => rfl
  | cons a w =>
    obtain ⟨ha, hw⟩ := List.forall_mem_cons.mp h
    show a.toUpper.toLower :: lowerWord w = a :: w
    rw [(isLower_spec ha).2.2.1, lowerWord_of_isLower hw]

/-! ## Underscores -/

theorem joinWith_lower {ws : List Text} (h : AreLettered ws) :
    ∀ c ∈ Text.joinWith "_" ws, c.toUpper.toLower = c := by
  induction ws with
  | nil => simp [Text.joinWith]
  | cons w rest ih =>
    obtain ⟨⟨-, hw⟩, hrest⟩ := List.forall_mem_cons.mp h
    have hword : ∀ c ∈ w, c.toUpper.toLower = c := fun c hc => (isLower_spec (hw c hc)).2.2.1
    cases rest with
    | nil => simpa [Text.joinWith] using hword
    | cons v rest =>
      rw [Text.joinWith_cons_cons, List.forall_mem_append, List.forall_mem_append]
      have hmark : ∀ c ∈ ['_'], c.toUpper.toLower = c := List.forall_mem_singleton.mpr rfl
      exact ⟨⟨hword, hmark⟩, ih hrest⟩

theorem betweenMarks_joinWith {ws : List Text} (h : AreLettered ws) :
    betweenMarks (Text.joinWith "_" ws) = ws := by
  by_cases hnone : ws = []
  · subst hnone
    rfl
  have hmark : ∀ w ∈ ws, '_' ∉ w := fun w hw hmem => absurd ((h w hw).2 '_' hmem) (by decide)
  have hcut : Text.cut (· == '_') (Text.joinWith "_" ws) = ws := Text.cut_joinWith hnone hmark
  rw [betweenMarks, hcut]
  exact List.filter_eq_self.mpr fun w hw => decide_eq_true (h w hw).1

/-! ## Capitals -/

/-- A capital and then none. -/
def BeginsCapital (w : Text) : Prop :=
  ∃ c t, w = c :: t ∧ c.isUpper = true ∧ ∀ d ∈ t, d.isUpper = false

theorem beginsCapital_capitalize {w : Text} (hne : w ≠ []) (h : ∀ c ∈ w, c.isLower = true) :
    BeginsCapital (capitalize w) := by
  obtain ⟨a, w, rfl⟩ := List.exists_cons_of_ne_nil hne
  obtain ⟨ha, hw⟩ := List.forall_mem_cons.mp h
  exact ⟨a.toUpper, w, rfl, (isLower_spec ha).2.2.2, fun d hd => (isLower_spec (hw d hd)).1⟩

theorem chain_of_no_capital (a : Char) {t : Text} (h : ∀ d ∈ t, d.isUpper = false) :
    (a :: t).IsChain fun _ b => (!b.isUpper) = true := by
  refine List.Pairwise.isChain (List.pairwise_cons.mpr ⟨?_, ?_⟩)
  · exact fun b hb => by simp [h b hb]
  · exact List.pairwise_of_forall_mem_list fun _ _ b hb => by simp [h b hb]

/-- Words that begin with a capital are told apart, also when the first one does not. -/
theorem atCapitals_flatten {a : Char} {first : Text} {rest : List Text}
    (hfirst : ∀ d ∈ first, d.isUpper = false) (hrest : ∀ w ∈ rest, BeginsCapital w) :
    atCapitals ((a :: first) :: rest).flatten = (a :: first) :: rest := by
  apply List.splitBy_flatten
  · intro hmem
    rcases List.mem_cons.mp hmem with h | h
    · cases h
    · obtain ⟨c, t, hempty, -⟩ := hrest [] h
      cases hempty
  · rw [List.forall_mem_cons]
    refine ⟨chain_of_no_capital a hfirst, fun w hw => ?_⟩
    obtain ⟨c, t, rfl, -, ht⟩ := hrest w hw
    exact chain_of_no_capital c ht
  · -- a part ends where the next one has its capital
    have hnext : ∀ u v : Text, u ≠ [] → BeginsCapital v →
        ∃ (hu : u ≠ []) (hv : v ≠ []), (!(v.head hv).isUpper) = false := by
      rintro u v hu ⟨c, t, rfl, hc, -⟩
      exact ⟨hu, List.cons_ne_nil c t, by simp [hc]⟩
    refine List.Pairwise.isChain (List.pairwise_cons.mpr ⟨?_, ?_⟩)
    · exact fun w hw => hnext _ w (List.cons_ne_nil a first) (hrest w hw)
    · refine List.pairwise_of_forall_mem_list fun u hu w hw => hnext u w ?_ (hrest w hw)
      obtain ⟨c, t, rfl, -⟩ := hrest u hu
      exact List.cons_ne_nil c t

theorem AreLettered.beginCapital {ws : List Text} (h : AreLettered ws) :
    ∀ w ∈ ws.map capitalize, BeginsCapital w := by
  intro w hw
  obtain ⟨v, hv, rfl⟩ := List.mem_map.mp hw
  exact beginsCapital_capitalize (h v hv).1 (h v hv).2

theorem AreLettered.lower_capitalized {ws : List Text} (h : AreLettered ws) :
    (ws.map capitalize).map lowerWord = ws := by
  rw [List.map_map]
  exact (List.map_congr_left fun w hw => lowerWord_capitalize (h w hw).2).trans (List.map_id ws)

/-! ## What was written is read back -/

theorem read_write (case : Case) {ws : List Text} (h : AreLettered ws) :
    case.read (case.write ws) = ws := by
  cases case with
  | snake => exact betweenMarks_joinWith h
  | screamingSnake =>
    have hlower : lowerWord ((Text.joinWith "_" ws).map Char.toUpper) = Text.joinWith "_" ws := by
      rw [lowerWord, List.map_map]
      exact (List.map_congr_left (joinWith_lower h)).trans (List.map_id _)
    rw [Case.write, Case.read, hlower]
    exact betweenMarks_joinWith h
  | pascal =>
    cases ws with
    | nil => rfl
    | cons w rest =>
      obtain ⟨hword, hrest⟩ := List.forall_mem_cons.mp h
      obtain ⟨c, t, hw, -, ht⟩ := beginsCapital_capitalize hword.1 hword.2
      have hparts := atCapitals_flatten (a := c) ht (AreLettered.beginCapital hrest)
      rw [← hw] at hparts
      rw [Case.write, Case.read, List.flatMap_def, List.map_cons, hparts, ← List.map_cons]
      exact AreLettered.lower_capitalized h
  | camel =>
    cases ws with
    | nil => rfl
    | cons w rest =>
      obtain ⟨⟨hne, hword⟩, hrest⟩ := List.forall_mem_cons.mp h
      obtain ⟨a, w, rfl⟩ := List.exists_cons_of_ne_nil hne
      have hlow : ∀ d ∈ w, d.isUpper = false := fun d hd =>
        (isLower_spec (hword d (List.mem_cons_of_mem a hd))).1
      have hparts := atCapitals_flatten (a := a) hlow (AreLettered.beginCapital hrest)
      rw [List.flatten_cons, ← List.flatMap_def] at hparts
      rw [Case.write, Case.read, hparts, List.map_cons, lowerWord_of_isLower hword,
        AreLettered.lower_capitalized hrest]

/-- A name that some words of letters are written as. -/
def Case.Writes (case : Case) (name : Text) : Prop :=
  AreLettered (case.read name) ∧ case.write (case.read name) = name

instance (case : Case) (name : Text) : Decidable (case.Writes name) :=
  inferInstanceAs (Decidable (_ ∧ _))

theorem areLettered_of_write {case : Case} {ws : List Text} (h : AreWords ws)
    (hdigit : ∀ c ∈ case.write ws, c.isDigit = false) : AreLettered ws := by
  intro w hw
  refine ⟨(h w hw).1, fun c hc => ?_⟩
  apply isLower_of_mem_letters hdigit
  rw [letters_write case h]
  exact List.mem_flatten.mpr ⟨w, hw, hc⟩

/-- At most one list of words is written as a name without digits. -/
theorem write_eq_iff {case : Case} {ws : List Text} (h : AreWords ws) {name : Text}
    (hdigit : ∀ c ∈ name, c.isDigit = false) :
    case.write ws = name ↔ ws = case.read name ∧ case.Writes name := by
  constructor
  · rintro rfl
    have hlettered := areLettered_of_write h hdigit
    have hread := read_write case hlettered
    exact ⟨hread.symm, hread.symm ▸ hlettered, congrArg case.write hread⟩
  · rintro ⟨rfl, -, hwritten⟩
    exact hwritten

end CatchAll.Naming
