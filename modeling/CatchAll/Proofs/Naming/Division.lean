import CatchAll.Proofs.Naming.Identifier
import CatchAll.Proofs.Text.Pieces

/-!
# Where a text is divided into words

A text is divided at runs of characters that are neither letters nor digits, before a
capital after a small letter or a digit, and before the last capital of several when a
small letter follows it. Nothing else divides it. So a text has one division into words,
and conversion finds it.
-/

set_option autoImplicit false

namespace CatchAll.Naming

open scoped Text

/-- A word begins where `after` begins, with `before` in front of it. -/
inductive Boundary : Text → Text → Prop
  | capital {before after : Text} {a b : Char} (ha : a.isLower = true ∨ a.isDigit = true)
      (hb : b.isUpper = true) : Boundary (before ++ [a]) (b :: after)
  | acronym {before after : Text} {a b c : Char} (ha : a.isUpper = true) (hb : b.isUpper = true)
      (hc : c.isLower = true) : Boundary (before ++ [a]) (b :: c :: after)

/-- A word with what follows it: letters and digits, no boundary inside, and a boundary at
the end unless a gap or nothing follows. -/
structure IsPart (w after : Text) : Prop where
  ne_nil : w ≠ []
  chars : ∀ c ∈ w, c.isAlphanum = true
  inside : ∀ u v, u ≠ [] → v ≠ [] → w = u ++ v → ¬ Boundary u (v ++ after)
  ended : ∀ c, after.head? = some c → c.isAlphanum = true → Boundary w after

/-- A text with its words, as they stand in it. -/
inductive Divided : Text → List Text → Prop
  | gap {gap : Text} (hgap : ∀ c ∈ gap, c.isAlphanum = false) : Divided gap []
  | word {gap w after : Text} {ws : List Text} (hgap : ∀ c ∈ gap, c.isAlphanum = false)
      (hw : IsPart w after) (hrest : Divided after ws) : Divided (gap ++ (w ++ after)) (w :: ws)

/-- The words of a text, as they stand in it. -/
def parts (t : Text) : List Text := Text.pieces (fun c => !c.isAlphanum) (markBreaks t)

theorem words_eq_parts (t : Text) : words t = (parts t).map lowerWord := rfl

/-! ## Boundaries -/

/-- A word begins in front of the text when `c` stands before it. -/
def breaksAt (c : Char) : Text → Bool
  | [] => false
  | b :: rest => breaksBetween c b rest

theorem boundary_concat_iff (u v : Text) (a : Char) :
    Boundary (u ++ [a]) v ↔ breaksAt a v = true := by
  constructor
  · intro h
    generalize hbefore : u ++ [a] = before at h
    cases h with
    | capital ha hb =>
      obtain ⟨-, hlast⟩ := List.append_inj' hbefore rfl
      obtain ⟨rfl, -⟩ := List.cons.inj hlast
      rcases ha with ha | ha <;> simp [breaksAt, breaksBetween, ha, hb]
    | acronym ha hb hc =>
      obtain ⟨-, hlast⟩ := List.append_inj' hbefore rfl
      obtain ⟨rfl, -⟩ := List.cons.inj hlast
      simp [breaksAt, breaksBetween, ha, hb, hc]
  · intro h
    cases v with
    | nil => cases h
    | cons b rest =>
      simp only [breaksAt, breaksBetween, Bool.or_eq_true, Bool.and_eq_true] at h
      rcases h with ⟨ha, hb⟩ | ⟨⟨ha, hb⟩, hc⟩
      · exact .capital ha hb
      · cases rest with
        | nil => cases hc
        | cons c rest => exact .acronym ha hb hc

theorem boundary_single_iff (c : Char) (v : Text) : Boundary [c] v ↔ breaksAt c v = true :=
  boundary_concat_iff [] v c

/-- Of what is before a boundary only the last character matters. -/
theorem boundary_cons_iff {u : Text} (hu : u ≠ []) (c : Char) (v : Text) :
    Boundary (c :: u) v ↔ Boundary u v := by
  rw [← List.dropLast_append_getLast hu, ← List.cons_append, boundary_concat_iff,
    boundary_concat_iff]

theorem not_boundary_of_small {u v : Text} (h : ∀ c, v.head? = some c → c.isUpper = false) :
    ¬ Boundary u v := by
  intro hboundary
  cases hboundary with
  | capital ha hb =>
    rw [h _ rfl] at hb
    cases hb
  | acronym ha hb hc =>
    rw [h _ rfl] at hb
    cases hb

theorem isAlphanum_of_small {c : Char} (h : (c.isLower || c.isDigit) = true) :
    c.isAlphanum = true ∧ c.isUpper = false := by
  have halnum : c.isAlphanum = true := by rw [isAlphanum_eq, Bool.or_assoc, h, Bool.or_true]
  exact ⟨halnum, forall_isAlphanum
    (P := fun c => (c.isLower || c.isDigit) = true → c.isUpper = false) (by decide) c halnum h⟩

/-- A word that has no capital, or has one only in front, is one part. -/
theorem isPart_of_small {c : Char} {w after : Text} (hc : c.isAlphanum = true)
    (hw : ∀ d ∈ w, (d.isLower || d.isDigit) = true)
    (hafter : ∀ d, after.head? = some d → d.isAlphanum = true → Boundary (c :: w) after) :
    IsPart (c :: w) after where
  ne_nil := List.cons_ne_nil c w
  chars := List.forall_mem_cons.mpr ⟨hc, fun d hd => (isAlphanum_of_small (hw d hd)).1⟩
  inside := by
    intro u v hu hv hcut
    obtain ⟨a, u, rfl⟩ := List.exists_cons_of_ne_nil hu
    obtain ⟨rfl, rfl⟩ := List.cons.inj hcut
    apply not_boundary_of_small
    intro d hd
    rw [List.head?_append_of_ne_nil _ hv] at hd
    exact (isAlphanum_of_small (hw d (List.mem_append_right u (List.mem_of_head? hd)))).2
  ended := hafter

theorem breaksAt_of_separator {c : Char} (h : c.isAlphanum = false) (t : Text) :
    breaksAt c t = false := by
  simp only [isAlphanum_eq, Bool.or_eq_false_iff] at h
  cases t with
  | nil => rfl
  | cons b rest => simp [breaksAt, breaksBetween, h]

/-! ## One character in front -/

/-- The word of `c` goes on into the text. -/
def goesOn (c : Char) (t : Text) : Bool := t.head?.any Char.isAlphanum && !breaksAt c t

theorem goesOn_iff {c : Char} {t : Text} :
    goesOn c t = true ↔ t.head?.any Char.isAlphanum = true ∧ breaksAt c t = false := by
  rw [goesOn, Bool.and_eq_true, Bool.not_eq_true']

theorem markBreaks_cons (c : Char) (t : Text) :
    markBreaks (c :: t) = c :: ((if breaksAt c t then ['_'] else []) ++ markBreaks t) := by
  cases t with
  | nil => rfl
  | cons b rest =>
    rw [markBreaks, breaksAt]
    split <;> rfl

theorem parts_of_separator {c : Char} (hc : c.isAlphanum = false) (t : Text) :
    parts (c :: t) = parts t := by
  rw [parts, markBreaks_cons, breaksAt_of_separator hc, Text.pieces_cons_of_pos (by simp [hc])]
  rfl

theorem parts_of_goesOn {c : Char} {t : Text} (hc : c.isAlphanum = true)
    (hgo : goesOn c t = true) : parts (c :: t) = (parts t).modifyHead (c :: ·) := by
  obtain ⟨hhead, hbreak⟩ := goesOn_iff.mp hgo
  cases t with
  | nil => cases hhead
  | cons b rest =>
    have hb : b.isAlphanum = true := hhead
    rw [parts, parts, markBreaks_cons c, hbreak, markBreaks_cons b]
    exact Text.pieces_cons_cons (by simp [hc]) (by simp [hb]) _

theorem parts_of_ends {c : Char} {t : Text} (hc : c.isAlphanum = true)
    (hend : goesOn c t = false) : parts (c :: t) = [c] :: parts t := by
  have hmark : Bool.not '_'.isAlphanum = true := rfl
  rw [parts, parts, markBreaks_cons]
  by_cases hbreak : breaksAt c t = true
  · rw [if_pos hbreak, Text.pieces_cons_of_ends (by simp [hc]) (by simp),
      List.singleton_append, Text.pieces_cons_of_pos hmark]
  · rw [if_neg hbreak, List.nil_append]
    refine Text.pieces_cons_of_ends (by simp [hc]) fun d hd => ?_
    cases t with
    | nil => cases hd
    | cons b rest =>
      have hb : b.isAlphanum = false := by simpa [goesOn, hbreak] using hend
      rw [markBreaks_cons] at hd
      obtain rfl : b = d := Option.some.inj hd
      simp [hb]

/-! ## Words one character longer -/

theorem isPart_single {c : Char} {t : Text} (hc : c.isAlphanum = true)
    (hend : goesOn c t = false) : IsPart [c] t := by
  refine isPart_of_small hc (List.forall_mem_nil _) fun d hd halnum => ?_
  rw [boundary_single_iff]
  simpa [goesOn, hd, halnum] using hend

theorem IsPart.single_ends {c : Char} {t : Text} (h : IsPart [c] t) : goesOn c t = false := by
  rw [Bool.eq_false_iff]
  intro hgo
  obtain ⟨hhead, hbreak⟩ := goesOn_iff.mp hgo
  obtain ⟨d, hd, halnum⟩ := (Option.any_eq_true _ _).mp hhead
  have hended := (boundary_single_iff c t).mp (h.ended d hd halnum)
  rw [hended] at hbreak
  cases hbreak

theorem isPart_cons_iff {c : Char} {w after : Text} (hw : w ≠ []) :
    IsPart (c :: w) after ↔
      c.isAlphanum = true ∧ breaksAt c (w ++ after) = false ∧ IsPart w after := by
  constructor
  · intro h
    obtain ⟨hc, hchars⟩ := List.forall_mem_cons.mp h.chars
    refine ⟨hc, ?_, hw, hchars, ?_, ?_⟩
    · rw [Bool.eq_false_iff, Ne, ← boundary_single_iff]
      exact h.inside [c] w (List.cons_ne_nil c []) hw rfl
    · intro u v hu hv hcut
      rw [← boundary_cons_iff hu c]
      exact h.inside (c :: u) v (List.cons_ne_nil c u) hv (congrArg (c :: ·) hcut)
    · intro d hd halnum
      exact (boundary_cons_iff hw c after).mp (h.ended d hd halnum)
  · rintro ⟨hc, hbreak, h⟩
    refine ⟨List.cons_ne_nil c w, List.forall_mem_cons.mpr ⟨hc, h.chars⟩, ?_, ?_⟩
    · intro u v hu hv hcut
      obtain ⟨d, u, rfl⟩ := List.exists_cons_of_ne_nil hu
      obtain ⟨rfl, rfl⟩ := List.cons.inj hcut
      by_cases hu : u = []
      · subst hu
        rw [boundary_single_iff]
        exact Bool.eq_false_iff.mp hbreak
      · rw [boundary_cons_iff hu]
        exact h.inside u v hu hv rfl
    · intro d hd halnum
      exact (boundary_cons_iff hw c after).mpr (h.ended d hd halnum)

/-! ## The division of a text -/

theorem Divided.separator {c : Char} {t : Text} {ws : List Text} (hc : c.isAlphanum = false)
    (h : Divided t ws) : Divided (c :: t) ws := by
  cases h with
  | gap hgap => exact .gap (List.forall_mem_cons.mpr ⟨hc, hgap⟩)
  | word hgap hw hrest => exact .word (List.forall_mem_cons.mpr ⟨hc, hgap⟩) hw hrest

theorem Divided.first {w after : Text} {ws : List Text} (hw : IsPart w after)
    (hrest : Divided after ws) : Divided (w ++ after) (w :: ws) := by
  rw [← List.nil_append (w ++ after)]
  exact .word (by simp) hw hrest

theorem Divided.ends {c : Char} {t : Text} {ws : List Text} (hc : c.isAlphanum = true)
    (hend : goesOn c t = false) (h : Divided t ws) : Divided (c :: t) ([c] :: ws) :=
  .first (isPart_single hc hend) h

/-- A text that begins with a letter or a digit begins with a word. -/
theorem Divided.cases_of_head {t : Text} {ws : List Text} (h : Divided t ws)
    (hhead : t.head?.any Char.isAlphanum = true) :
    ∃ w after rest, t = w ++ after ∧ ws = w :: rest ∧ IsPart w after ∧ Divided after rest := by
  cases h with
  | gap hgap =>
    obtain ⟨c, hc, halnum⟩ := (Option.any_eq_true _ _).mp hhead
    rw [hgap c (List.mem_of_head? hc)] at halnum
    cases halnum
  | @word gap w after rest hgap hw hrest =>
    cases gap with
    | nil => exact ⟨w, after, rest, rfl, rfl, hw, hrest⟩
    | cons d gap => exact absurd hhead (by simp [hgap d List.mem_cons_self])

theorem Divided.goesOn {c : Char} {t : Text} {ws : List Text} (hc : c.isAlphanum = true)
    (hgo : Naming.goesOn c t = true) (h : Divided t ws) :
    Divided (c :: t) (ws.modifyHead (c :: ·)) := by
  obtain ⟨hhead, hbreak⟩ := goesOn_iff.mp hgo
  obtain ⟨w, after, rest, rfl, rfl, hw, hrest⟩ := h.cases_of_head hhead
  exact .first ((isPart_cons_iff hw.ne_nil).mpr ⟨hc, hbreak, hw⟩) hrest

theorem divided_parts (t : Text) : Divided t (parts t) := by
  induction t with
  | nil => exact .gap (by simp)
  | cons c t ih =>
    by_cases hc : c.isAlphanum = true
    · by_cases hgo : goesOn c t = true
      · rw [parts_of_goesOn hc hgo]
        exact ih.goesOn hc hgo
      · rw [Bool.not_eq_true] at hgo
        rw [parts_of_ends hc hgo]
        exact ih.ends hc hgo
    · rw [Bool.not_eq_true] at hc
      rw [parts_of_separator hc]
      exact ih.separator hc

theorem parts_append_gap {gap : Text} (hgap : ∀ c ∈ gap, c.isAlphanum = false) (t : Text) :
    parts (gap ++ t) = parts t := by
  induction gap with
  | nil => rfl
  | cons c gap ih =>
    obtain ⟨hc, hgap⟩ := List.forall_mem_cons.mp hgap
    rw [List.cons_append, parts_of_separator hc, ih hgap]

theorem parts_append_word {w after : Text} (h : IsPart w after) :
    parts (w ++ after) = w :: parts after := by
  induction w with
  | nil => exact absurd rfl h.ne_nil
  | cons c w ih =>
    by_cases hw : w = []
    · subst hw
      exact parts_of_ends (h.chars c List.mem_cons_self) h.single_ends
    · obtain ⟨hc, hbreak, hrest⟩ := (isPart_cons_iff hw).mp h
      obtain ⟨d, w, rfl⟩ := List.exists_cons_of_ne_nil hw
      have hhead : (d :: w ++ after).head?.any Char.isAlphanum = true :=
        hrest.chars d List.mem_cons_self
      rw [List.cons_append, parts_of_goesOn hc (goesOn_iff.mpr ⟨hhead, hbreak⟩), ih hrest,
        List.modifyHead_cons]

theorem Divided.eq_parts {t : Text} {ws : List Text} (h : Divided t ws) : ws = parts t := by
  induction h with
  | @gap gap hgap =>
    have hparts := parts_append_gap hgap []
    rw [List.append_nil] at hparts
    exact hparts.symm
  | word hgap hw hrest ih => rw [parts_append_gap hgap, parts_append_word hw, ih]

/-- A text is divided in one way. -/
theorem divided_iff (t : Text) (ws : List Text) : Divided t ws ↔ ws = parts t := by
  constructor
  · exact Divided.eq_parts
  · rintro rfl
    exact divided_parts t

theorem Divided.words_eq {t : Text} {ws : List Text} (h : Divided t ws) :
    words t = ws.map lowerWord := by
  rw [words_eq_parts, ← h.eq_parts]

end CatchAll.Naming
