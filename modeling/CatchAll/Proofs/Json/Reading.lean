import CatchAll.Json.Reader
import CatchAll.Proofs.Outcome
import CatchAll.Proofs.Table

/-!
# The values that are read

A value that was read has no object with two fields under one key: an object is
put together from its pairs when it is closed, and each token keeps what is
inside the open brackets like that.
-/

set_option autoImplicit false

namespace CatchAll.Json

open scoped Text
open Outcome

/-- No object in a value has two fields under one key. -/
inductive KeysDistinct : Json → Prop
  | null : KeysDistinct .null
  | bool (b : Bool) : KeysDistinct (.bool b)
  | int (i : Int) : KeysDistinct (.int i)
  | num (f : Float) : KeysDistinct (.num f)
  | str (t : Text) : KeysDistinct (.str t)
  | arr {items : List Json} (h : ∀ v ∈ items, KeysDistinct v) : KeysDistinct (.arr items)
  | obj {fields : Fields} (hkeys : (Table.keys fields).Nodup)
      (h : ∀ entry ∈ fields, KeysDistinct entry.2) : KeysDistinct (.obj fields)

theorem KeysDistinct.keys {fields : Fields} (h : KeysDistinct (.obj fields)) :
    (Table.keys fields).Nodup := by
  cases h
  assumption

theorem keysDistinct_ofPairs {pairs : Fields} (h : ∀ pair ∈ pairs, KeysDistinct pair.2) :
    KeysDistinct (.obj (Table.ofPairs pairs)) := by
  obtain ⟨hkeys, hentries⟩ := Table.ofPairs_spec pairs
  refine .obj hkeys fun entry hentry => ?_
  obtain ⟨pair, hpair, hvalue⟩ := hentries entry hentry
  rw [hvalue]
  exact h pair hpair

/-! ## Words -/

theorem keysDistinct_value {p : NumberParts} {v : Json} (h : p.value = .ok v) :
    KeysDistinct v := by
  rw [NumberParts.value] at h
  split at h
  · split at h
    · cases h
    · cases h
      exact .int _
  · cases h
    exact .num _

theorem keysDistinct_readWord {word : Text} {v : Json} (h : readWord word = .ok v) :
    KeysDistinct v := by
  simp only [readWord] at h
  split_ifs at h
  · cases h
    exact .null
  · cases h
    exact .bool true
  · cases h
    exact .bool false
  iterate 3
    · cases h
      exact .num _
  split at h
  · obtain ⟨number, hnumber, h⟩ := bind_eq_ok.mp h
    split at h
    · cases h
      exact keysDistinct_value hnumber
    · cases h
  · cases h

/-! ## Brackets -/

/-- Whether what is inside a bracket has distinct keys. The pairs themselves may
repeat a key. -/
def Frame.Sound : Frame → Prop
  | .items back => ∀ v ∈ back, KeysDistinct v
  | .fields back | .keyed back _ => ∀ pair ∈ back, KeysDistinct pair.2

namespace Assembly

structure Sound (a : Assembly) : Prop where
  frames : ∀ frame ∈ a.frames, frame.Sound
  result : ∀ v, a.result = some v → KeysDistinct v

variable {a a' : Assembly} {frames : List Frame}

theorem place_sound {v : Json} (hv : KeysDistinct v) (hframes : ∀ frame ∈ frames, frame.Sound)
    (h : place v frames = .ok a) : a.Sound := by
  match frames, h with
  | [], h =>
    cases h
    exact ⟨fun frame hframe => absurd hframe List.not_mem_nil, fun _ hw => Option.some.inj hw ▸ hv⟩
  | .items back :: rest, h =>
    cases h
    obtain ⟨hback, hrest⟩ := List.forall_mem_cons.mp hframes
    exact ⟨List.forall_mem_cons.mpr ⟨List.forall_mem_cons.mpr ⟨hv, hback⟩, hrest⟩, nofun⟩
  | .keyed back key :: rest, h =>
    cases h
    obtain ⟨hback, hrest⟩ := List.forall_mem_cons.mp hframes
    exact ⟨List.forall_mem_cons.mpr ⟨List.forall_mem_cons.mpr ⟨hv, hback⟩, hrest⟩, nofun⟩

theorem close_sound {c : Char} (hframes : ∀ frame ∈ frames, frame.Sound)
    (h : close c frames = .ok a) : a.Sound := by
  match frames, h with
  | .items back :: rest, h =>
    obtain ⟨hback, hrest⟩ := List.forall_mem_cons.mp hframes
    rw [close] at h
    split at h
    · exact place_sound (.arr fun v hv => hback v (List.mem_reverse.mp hv)) hrest h
    · cases h
  | .fields back :: rest, h =>
    obtain ⟨hback, hrest⟩ := List.forall_mem_cons.mp hframes
    rw [close] at h
    split at h
    · exact place_sound
        (keysDistinct_ofPairs fun pair hpair => hback pair (List.mem_reverse.mp hpair)) hrest h
    · cases h

theorem separate_sound (hframes : ∀ frame ∈ frames, frame.Sound)
    (h : separate frames = .ok a) : a.Sound := by
  match frames, h with
  | .items back :: rest, h =>
    cases h
    exact ⟨hframes, nofun⟩
  | .fields back :: rest, h =>
    cases h
    exact ⟨hframes, nofun⟩

theorem enter_sound {expected : Expected} {frame : Frame} (hframe : frame.Sound)
    (hframes : ∀ frame ∈ frames, frame.Sound) (h : enter expected frame frames = .ok a) :
    a.Sound := by
  rw [enter] at h
  split at h
  · cases h
    exact ⟨List.forall_mem_cons.mpr ⟨hframe, hframes⟩, nofun⟩
  · cases h

theorem add_sound (ha : a.Sound) {token : Token} (h : a.add token = .ok a') : a'.Sound := by
  obtain ⟨expected, frames, result⟩ := a
  obtain ⟨hframes, -⟩ := ha
  simp only [add] at h
  have hempty : (Frame.items []).Sound ∧ (Frame.fields []).Sound :=
    ⟨fun _ hv => absurd hv List.not_mem_nil, fun _ hv => absurd hv List.not_mem_nil⟩
  split at h
  case h_1 | h_5 => exact enter_sound hempty.1 hframes h
  case h_2 | h_6 => exact enter_sound hempty.2 hframes h
  case h_3 | h_7 => exact place_sound (.str _) hframes h
  case h_4 | h_8 =>
    obtain ⟨v, hv, h⟩ := bind_eq_ok.mp h
    exact place_sound (keysDistinct_readWord hv) hframes h
  case h_9 | h_11 | h_14 => exact close_sound hframes h
  case h_10 => exact separate_sound hframes h
  case h_12 | h_13 =>
    cases h
    obtain ⟨hback, hrest⟩ := List.forall_mem_cons.mp hframes
    exact ⟨List.forall_mem_cons.mpr ⟨hback, hrest⟩, nofun⟩
  case h_15 =>
    cases h
    exact ⟨hframes, nofun⟩
  case h_16 => cases h

theorem run_sound {tokens : List Token} (ha : a.Sound) (h : tokens.foldlM add a = .ok a') :
    a'.Sound := by
  induction tokens generalizing a with
  | nil =>
    cases h
    exact ha
  | cons token tokens ih =>
    rw [List.foldlM_cons] at h
    obtain ⟨next, hnext, hrest⟩ := bind_eq_ok.mp h
    exact ih (add_sound ha hnext) hrest

end Assembly

theorem read_keysDistinct {t : Text} {v : Json} (h : read t = .ok v) : KeysDistinct v := by
  obtain ⟨last, hlast, h⟩ := bind_eq_ok.mp h
  have hsound : last.Sound :=
    Assembly.run_sound ⟨fun _ hframe => absurd hframe List.not_mem_nil, fun _ hv => by cases hv⟩
      hlast
  split at h
  · cases h
    exact hsound.result _ ‹_›
  · cases h

end CatchAll.Json
