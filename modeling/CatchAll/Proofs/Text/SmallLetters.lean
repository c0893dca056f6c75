import CatchAll.Text.Casing

/-!
# Small letters stay as they are

No distance of the table leads to a code point that the table moves, so a text in
small letters is not changed by writing it in small letters once more.
-/

set_option autoImplicit false

namespace CatchAll.Text

namespace Casing

/-! ## Where the table leads -/

theorem Shift.covers_iff (s : Shift) (n : Nat) :
    s.covers n = true ↔ s.first ≤ n ∧ n ≤ s.last ∧ (n - s.first) % s.stride = 0 := by
  simp [Shift.covers, and_assoc]

/-- The code point that a shift leads to. -/
def Shift.image (s : Shift) (n : Nat) : Nat := Int.toNat (n + s.distance)

/-- What `s` leads to lies outside the range of `t` or between its steps. -/
def Shift.leaves (s t : Shift) : Bool :=
  Nat.blt (s.image s.last) t.first || Nat.blt t.last (s.image s.first) ||
    (Nat.beq t.stride 2 && (Nat.beq s.stride 2 || Nat.beq s.first s.last) &&
      Nat.blt 0 (s.image s.first) && Nat.ble t.first (s.image s.first) &&
      Nat.beq ((s.image s.first - t.first) % 2) 1)

theorem Shift.not_covers_image {s t : Shift} (h : s.leaves t = true) {n : Nat}
    (hn : s.covers n = true) : t.covers (s.image n) = false := by
  rw [Bool.eq_false_iff]
  intro hcovers
  obtain ⟨hfirst, hlast, hstep⟩ := (s.covers_iff n).mp hn
  obtain ⟨hfirst', hlast', hstep'⟩ := (t.covers_iff _).mp hcovers
  simp only [leaves, image, Bool.or_eq_true, Bool.and_eq_true, Nat.blt_eq, Nat.beq_eq,
    Nat.ble_eq] at h hfirst' hlast' hstep'
  rcases h with (h | h) | ⟨⟨⟨⟨hstride, hpair⟩, hpositive⟩, hbefore⟩, hodd⟩
  · omega
  · omega
  · -- the steps of `t` are two apart, and those of `s` start between them
    rw [hstride] at hstep'
    rcases hpair with hpair | hsingle
    · rw [hpair] at hstep
      omega
    · omega

/-- The capitals with rules of their own: the dotted one and the sigma. -/
def special : List Shift := [⟨0x130, 0x130, 1, 0⟩, ⟨0x3A3, 0x3A3, 1, 0⟩]

set_option maxRecDepth 10000 in
theorem lowerShifts_leave :
    lowerShifts.all (fun s => (special ++ lowerShifts).all s.leaves) = true := by
  decide +kernel

/-! ## Characters -/

/-- A character that the mapping to small letters leaves alone, wherever it stands. -/
def IsSmall (c : Char) : Prop := ∀ s ∈ special ++ lowerShifts, s.covers c.toNat = false

instance (c : Char) : Decidable (IsSmall c) :=
  inferInstanceAs (Decidable (∀ s ∈ special ++ lowerShifts, _))

theorem isSmall_iff (c : Char) :
    IsSmall c ↔ c.toNat ≠ 0x130 ∧ c.toNat ≠ 0x3A3 ∧
      lowerShifts.find? (·.covers c.toNat) = none := by
  have hsingle (n m : Nat) : (⟨n, n, 1, 0⟩ : Shift).covers m = false ↔ m ≠ n := by
    rw [Bool.eq_false_iff, ne_eq, Shift.covers_iff]
    dsimp only
    omega
  rw [IsSmall, List.forall_mem_append, special, List.forall_mem_cons, List.forall_mem_singleton,
    hsingle, hsingle, and_assoc, List.find?_eq_none]
  simp

/-- The null character, what the dotted capital becomes, and the two small sigmas. -/
theorem isSmall_single : ∀ n ∈ [0, 0x69, 0x307, 0x3C2, 0x3C3], IsSmall (Char.ofNat n) := by
  decide +kernel

theorem toNat_ofNat_eq (n : Nat) : (Char.ofNat n).toNat = n ∨ Char.ofNat n = Char.ofNat 0 := by
  by_cases h : n.isValidChar
  · exact Or.inl (by rw [Char.ofNat, dif_pos h]; rfl)
  · exact Or.inr (by rw [Char.ofNat, dif_neg h]; rfl)

theorem isSmall_shifted {c : Char} (hdotted : c.toNat ≠ 0x130) (hsigma : c.toNat ≠ 0x3A3) :
    IsSmall (shifted lowerShifts c) := by
  rw [shifted]
  split
  · rename_i s hfind
    have hs := List.mem_of_find?_eq_some hfind
    have hcovers : s.covers c.toNat = true := by simpa using List.find?_some hfind
    have hleaves := List.all_eq_true.mp (List.all_eq_true.mp lowerShifts_leave s hs)
    rcases toNat_ofNat_eq (s.image c.toNat) with hn | hn
    · intro t ht
      rw [← Shift.image, hn]
      exact Shift.not_covers_image (hleaves t ht) hcovers
    · rw [← Shift.image, hn]
      exact isSmall_single 0 (by decide)
  · exact (isSmall_iff c).mpr ⟨hdotted, hsigma, ‹_›⟩

/-! ## Texts -/

theorem lowerFrom_isSmall (before t : Text) : ∀ c ∈ lowerFrom before t, IsSmall c := by
  induction t generalizing before with
  | nil => simp [lowerFrom]
  | cons c rest ih =>
    intro d hd
    rw [lowerFrom] at hd
    rcases List.mem_append.mp hd with hd | hd
    · split at hd
      · split at hd
        · exact List.mem_singleton.mp hd ▸ isSmall_single 0x3C2 (by decide)
        · exact List.mem_singleton.mp hd ▸ isSmall_single 0x3C3 (by decide)
      · rename_i hsigma
        rw [lowerLetter] at hd
        split at hd
        · simp only [List.mem_cons, List.not_mem_nil, or_false] at hd
          rcases hd with rfl | rfl
          · exact isSmall_single 0x69 (by decide)
          · exact isSmall_single 0x307 (by decide)
        · exact List.mem_singleton.mp hd ▸ isSmall_shifted ‹_› hsigma
    · exact ih (c :: before) d hd

theorem lowerFrom_of_isSmall {t : Text} (h : ∀ c ∈ t, IsSmall c) (before : Text) :
    lowerFrom before t = t := by
  induction t generalizing before with
  | nil => rfl
  | cons c rest ih =>
    obtain ⟨hc, hrest⟩ := List.forall_mem_cons.mp h
    obtain ⟨hdotted, hsigma, hunmoved⟩ := (isSmall_iff c).mp hc
    have hletter : lowerLetter c = [c] := by
      rw [lowerLetter, if_neg hdotted, shifted, hunmoved]
    rw [lowerFrom, if_neg hsigma, hletter, ih hrest]
    rfl

end Casing

@[simp] theorem lower_lower (t : Text) : lower (lower t) = lower t :=
  Casing.lowerFrom_of_isSmall (Casing.lowerFrom_isSmall [] t) []

end CatchAll.Text
