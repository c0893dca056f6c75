import CatchAll.Proofs.Target.Arms
import CatchAll.Proofs.Target.RustConversion
import CatchAll.Proofs.Template.Rendering
import CatchAll.Target.RustModule

/-!
# The implementations of a Rust enum

Below the declaration the template puts the conversions of the policy, then the
methods that show a variant and all values. Nothing after the header of these
methods repeats it, so they are found from the end of the code.
-/

set_option autoImplicit false

namespace CatchAll.Target.Rust

open scoped Text Template
open Naming Schema Text.Literal
open Template (Node Slot render render_lit render_text render_each render_cond isLine lines_line
  lines_lit lines_named lines_flatten)

/-! ## The methods -/

def implHeader (typeName : Text) : Text := "impl " ++ (typeName ++ " \x7b")

/-- What stands between the header and the arms. -/
def asStrOpening : List Text :=
  ["    /// Returns the `&str` value of the enum member.",
   "    pub fn as_str(&self) -> &str \x7b", "        match self \x7b"]

def armMargin : Text := "            "

def matchEnd : Text := "        \x7d"

def valuesHeader : Text := "    pub const fn values() -> &'static [&'static str] \x7b"

/-- What stands between the arms and the values. -/
def valuesOpening : List Text :=
  [matchEnd, "    \x7d", [], "    /// Returns all the `&str` representations of the enum members.",
   valuesHeader]

def valuesMargin : Text := "        &["

def valuesLine (c : Context) : Text :=
  valuesMargin ++ (Text.joinWith ", " (c.values.map literal) ++ "]")

/-- What follows the values. -/
def traitLines (typeName : Text) : List Text :=
  ["    \x7d", "\x7d", [],
   "impl ::std::convert::AsRef<str> for " ++ (typeName ++ " \x7b"),
   "    fn as_ref(&self) -> &str \x7b", "        self.as_str()", "    \x7d", "\x7d", [],
   "impl ::std::fmt::Display for " ++ (typeName ++ " \x7b"),
   "    fn fmt(&self, f: &mut ::std::fmt::Formatter<'_>) -> ::std::fmt::Result \x7b",
   "        f.write_str(self.as_str())", "    \x7d", "\x7d"]

/-- The arms that show a variant. -/
def shownArms (c : Context) : List Text :=
  c.arms.map (asStrArm c.typeName) ++ [asStrArmText c]

def methodLines (c : Context) : List Text :=
  asStrOpening ++ ((shownArms c).map (armMargin ++ ·) ++
    (valuesOpening ++ valuesLine c :: traitLines c.typeName))

/-! ## Rendering -/

def implFields (c : Context) (allow : Bool) (fromImpl fromStrImpl : Text) : Fields :=
  [("enum_name", .str c.typeName),
   ("allow_deprecated", .bool allow),
   ("from_impl", .str fromImpl),
   ("from_str_impl", .str fromStrImpl),
   ("as_str_arms", Json.strings (c.arms.map (asStrArm c.typeName))),
   ("additional_as_str_arms", .str (asStrArmText c)),
   ("values", Json.strings (c.values.map literal))]

def allowText (allow : Bool) : Text := if allow then "#[allow(deprecated)]\n" else []

variable {c : Context} {allow : Bool} {fromImpl fromStrImpl : Text}

theorem indentLines_asStrArm (hT : '\n' ∉ c.typeName) :
    Template.indentLines 12 (asStrArmText c) = armMargin ++ asStrArmText c := by
  have hsingle : '\n' ∉ asStrArmText c := by
    unfold asStrArmText catchAllName
    simp [hT]
  have hshown : Text.allBlank (asStrArmText c) = false := by
    refine Writer.shown_of_mem (c := '=') ?_ (by decide)
    unfold asStrArmText
    simp
  rw [Template.indentLines, Text.lines_of_single hsingle, List.map_singleton, hshown,
    if_neg (by decide)]
  exact List.append_nil _

theorem value_lastArm (hT : '\n' ∉ c.typeName) :
    (Slot.through "additional_as_str_arms" (.indent 12)).value
      (implFields c allow fromImpl fromStrImpl) = .ok (.str (armMargin ++ asStrArmText c)) :=
  congrArg (fun t => Except.ok (Json.str t)) (indentLines_asStrArm hT)

theorem render_arms : ((c.arms.map (asStrArm c.typeName)).map Json.str).mapM (fun item =>
      render false (("arm", item) :: implFields c allow fromImpl fromStrImpl)
        [.lit "            ", .put "arm", .lit "\n"]) =
    .ok (c.arms.map fun arm => (armMargin ++ asStrArm c.typeName arm) ++ ['\n']) := by
  rw [Outcome.mapM_eq_ok, List.map_map, List.forall₂_map_left_iff, List.forall₂_map_right_iff,
    List.forall₂_same]
  intro arm _
  have hround : render false (("arm", .str (asStrArm c.typeName arm)) ::
      implFields c allow fromImpl fromStrImpl) [.lit "            ", .put "arm", .lit "\n"] =
      .ok (armMargin ++ (asStrArm c.typeName arm ++ ['\n'])) :=
    render_lit _ (render_text rfl (Template.render_last _))
  rwa [← List.append_assoc] at hround

theorem value_values : (Slot.through "values" (.join ", ")).value
    (implFields c allow fromImpl fromStrImpl) =
      .ok (.str (Text.joinWith ", " (c.values.map literal))) := by
  have hshown : ((c.values.map literal).map Json.str).map Json.shown = c.values.map literal := by
    rw [List.map_map]
    exact List.map_id _
  exact congrArg (fun values => Except.ok (Json.str (Text.joinWith ", " values))) hshown

theorem render_methods (hT : '\n' ∉ c.typeName) (harms : ∀ arm ∈ c.arms, '\n' ∉ arm.1) :
    ∃ t, render false (implFields c allow fromImpl fromStrImpl) (implTemplate.drop 6) = .ok t ∧
      Text.lines t = implHeader c.typeName :: methodLines c := by
  have hjoined : '\n' ∉ Text.joinWith ", " (c.values.map literal) :=
    Text.lineFeed_not_mem_joinWith (by decide)
      (List.forall_mem_map.mpr fun v _ => lineFeed_not_mem_literal v)
  have hlast : '\n' ∉ armMargin ++ asStrArmText c := by
    unfold asStrArmText catchAllName armMargin
    simp [hT]
  have hshown : ∀ arm ∈ c.arms, '\n' ∉ armMargin ++ asStrArm c.typeName arm := by
    intro arm harm
    unfold armMargin asStrArm
    simp [hT, harms arm harm, lineFeed_not_mem_literal]
  refine ⟨_, render_lit _ <| render_text rfl <| render_lit _ <| render_lit _ <| render_lit _ <|
    render_lit _ <| render_each rfl render_arms <| render_text (value_lastArm hT) <| render_lit _ <|
    render_lit _ <| render_lit _ <| render_lit _ <| render_lit _ <| render_text value_values <|
    render_lit _ <| render_lit _ <| render_lit _ <| render_lit _ <| render_text rfl <|
    render_lit _ <| render_lit _ <| render_lit _ <| render_lit _ <| render_lit _ <|
    render_lit _ <| render_text rfl <| render_lit _ <| render_lit _ <| render_lit _ <|
    render_lit _ <| Template.render_last _, ?_⟩
  have hmore : (shownArms c).map (armMargin ++ ·) =
      c.arms.map (fun arm => armMargin ++ asStrArm c.typeName arm) ++
        [armMargin ++ asStrArmText c] := by
    rw [shownArms, List.map_append, List.map_map]
    rfl
  have hfeed : isLine [] "\n" = true := by decide
  have hend : ("\n        \x7d\n" : Text) = '\n' :: "        \x7d\n" := by decide
  have hmethod : ("    \x7d\n\n" : Text) = "    \x7d\n" ++ "\n" := by decide
  have himpl : ("\x7d\n\n" : Text) = "\x7d\n" ++ "\n" := by decide
  rw [methodLines, hmore, asStrOpening, List.append_assoc, hend, hmethod, himpl]
  simp only [List.append_assoc, List.cons_append]
  refine lines_named (by decide) hT (by decide) ?_
  refine lines_lit (by decide +kernel) <| lines_lit (by decide +kernel) <|
    lines_lit (by decide +kernel) ?_
  refine lines_flatten _ hshown <| lines_line hlast <| lines_lit (by decide +kernel) ?_
  -- the values
  refine lines_lit (by decide) <| lines_lit hfeed <| lines_lit (by decide +kernel) <|
    lines_lit (by decide +kernel) ?_
  refine lines_named (by decide) hjoined (by decide) ?_
  -- the traits
  refine lines_lit (by decide +kernel) <| lines_lit (by decide) <| lines_lit hfeed ?_
  refine lines_named (by decide +kernel) hT (by decide) ?_
  refine lines_lit (by decide +kernel) <| lines_lit (by decide +kernel) <|
    lines_lit (by decide +kernel) <| lines_lit (by decide) <| lines_lit hfeed ?_
  refine lines_named (by decide +kernel) hT (by decide) ?_
  refine lines_lit (by decide +kernel) <| lines_lit (by decide +kernel) <|
    lines_lit (by decide +kernel) ?_
  exact Text.lines_of_single (by decide)

theorem render_implementations (hT : '\n' ∉ c.typeName) (harms : ∀ arm ∈ c.arms, '\n' ∉ arm.1) :
    ∃ methods, Template.renderNamed shelf "enum_impl.rs.j2"
        (implFields c allow fromImpl fromStrImpl) =
          .ok (allowText allow ++ (fromImpl ++ ("\n\n" ++ (fromStrImpl ++ ("\n\n" ++
            (allowText allow ++ methods)))))) ∧
      Text.lines methods = implHeader c.typeName :: methodLines c := by
  obtain ⟨methods, hmethods, hlines⟩ := @render_methods c allow fromImpl fromStrImpl hT harms
  have hallow : render false (implFields c allow fromImpl fromStrImpl)
      (if (Json.bool allow).truthy then [.lit "#[allow(deprecated)]\n"] else []) =
      .ok (allowText allow) := by
    cases allow with
    | false => rfl
    | true => exact Template.render_last _
  have hall : render false (implFields c allow fromImpl fromStrImpl) implTemplate =
      .ok (allowText allow ++ (fromImpl ++ ("\n\n" ++ (fromStrImpl ++ ("\n\n" ++
        (allowText allow ++ methods)))))) :=
    render_cond rfl hallow <| render_text rfl <| render_lit _ <| render_text rfl <|
      render_lit _ <| render_cond rfl hallow hmethods
  exact ⟨methods, Template.renderNamed_of_render rfl (by decide) rfl hall, hlines⟩

/-! ## Reading the methods -/

/-- The arms of the conversion to a text. -/
def readAsStr (typeName code : Text) : Option (Table Text) := do
  let (_, below) ← cutAtLast (implHeader typeName) (Text.lines code)
  let arms ← below.dropPrefix? asStrOpening
  let arms ← (arms.takeWhile (· ≠ matchEnd)).mapM (·.dropPrefix? armMargin)
  readShown typeName arms

/-- The list of all values. -/
def readValues (typeName code : Text) : Option (List Text) := do
  let (_, below) ← cutAtLast (implHeader typeName) (Text.lines code)
  let rest ← afterFirst valuesHeader below
  let values ← (← rest.head?).dropPrefix? valuesMargin
  readLiterals escapes "]" values.length values

theorem armMargin_append_ne {line : Text} (h : armMargin.isPrefixOf line = false) (l : Text) :
    armMargin ++ l ≠ line := by
  rintro rfl
  rw [List.isPrefixOf_iff_prefix.mpr (List.prefix_append armMargin l)] at h
  cases h

theorem implHeader_ne {typeName rest : Text} (hT : IsName typeName) :
    "impl :" ++ rest ≠ implHeader typeName := by
  obtain ⟨x, name, rfl⟩ := List.exists_cons_of_ne_nil hT.ne_nil
  have hx := hT.chars x List.mem_cons_self
  intro heq
  obtain rfl : ':' = x := congrArg (fun l : Text => l[5]?) heq |> Option.some.inj
  exact absurd hx (by decide)

theorem implHeader_not_mem (hT : IsName c.typeName) : implHeader c.typeName ∉ methodLines c := by
  have hhead {l : Text} (h : l.head? ≠ some 'i') : l ≠ implHeader c.typeName :=
    fun heq => h (heq ▸ rfl)
  have hopening : ∀ l ∈ asStrOpening, l.head? ≠ some 'i' := by decide
  have hvalues : ∀ l ∈ valuesOpening, l.head? ≠ some 'i' := by decide
  have hasRef : ("impl ::std::convert::AsRef<str> for " : Text) =
      "impl :" ++ ":std::convert::AsRef<str> for " := by decide +kernel
  have hdisplay : ("impl ::std::fmt::Display for " : Text) =
      "impl :" ++ ":std::fmt::Display for " := by decide +kernel
  have htraits : ∀ l ∈ traitLines c.typeName, l ≠ implHeader c.typeName := by
    unfold traitLines
    rw [hasRef, hdisplay, List.append_assoc, List.append_assoc]
    simp only [List.forall_mem_cons]
    exact ⟨hhead (by decide), hhead (by decide), hhead (by decide), implHeader_ne hT,
      hhead (by decide), hhead (by decide), hhead (by decide), hhead (by decide),
      hhead (by decide), implHeader_ne hT, hhead (by decide), hhead (by decide),
      hhead (by decide), hhead (by decide), List.forall_mem_nil _⟩
  have hall : ∀ l ∈ methodLines c, l ≠ implHeader c.typeName := by
    simp only [methodLines, List.forall_mem_append, List.forall_mem_map, List.forall_mem_cons]
    refine ⟨fun l hl => hhead (hopening l hl), fun l _ => hhead ?_,
      fun l hl => hhead (hvalues l hl), hhead ?_, htraits⟩
    · exact fun h => absurd (Option.some.inj h) (by decide)
    · exact fun h => absurd (Option.some.inj h) (by decide)
  exact fun hmem => hall _ hmem rfl

section

variable {code : Text} {front : List Text} (hT : IsName c.typeName)
  (hcode : Text.lines code = front ++ implHeader c.typeName :: methodLines c)
include hT hcode

/-- The methods are those of the context, whatever stands before them. -/
theorem readAsStr_of_lines (hfits : ∀ arm ∈ c.arms, FitsVariant arm.1) :
    readAsStr c.typeName code = some c.arms := by
  have harms : ((shownArms c).map (armMargin ++ ·) ++
      (valuesOpening ++ valuesLine c :: traitLines c.typeName)).takeWhile (· ≠ matchEnd) =
      (shownArms c).map (armMargin ++ ·) := by
    refine takeWhile_ne (fun hmem => ?_) _
    obtain ⟨l, -, heq⟩ := List.mem_map.mp hmem
    exact armMargin_append_ne (by decide) l heq
  have hmargins : ((shownArms c).map (armMargin ++ ·)).mapM (·.dropPrefix? armMargin) =
      some (shownArms c) := by
    refine Eq.trans (mapM_map_of_forall fun arm _ => ?_) (congrArg some (List.map_id _))
    exact dropPrefix?_append armMargin arm
  rw [readAsStr, hcode, cutAtLast_append (implHeader_not_mem hT), Option.bind_eq_bind,
    Option.bind_some]
  dsimp only
  rw [methodLines, dropPrefix?_append, Option.bind_eq_bind, Option.bind_some, harms, hmargins]
  exact readShown_asStr c.typeName hfits c rfl

theorem readValues_of_lines (hvalues : c.values ≠ []) :
    readValues c.typeName code = some c.values := by
  have hafter : afterFirst valuesHeader (methodLines c) =
      some (valuesLine c :: traitLines c.typeName) := by
    have hlines : methodLines c = (asStrOpening ++ ((shownArms c).map (armMargin ++ ·) ++
        valuesOpening.dropLast)) ++ valuesHeader :: valuesLine c :: traitLines c.typeName := by
      rw [methodLines, List.append_assoc, List.append_assoc]
      rfl
    rw [hlines]
    refine afterFirst_append ?_
    simp only [List.mem_append, List.mem_map, not_or, not_exists, not_and]
    exact ⟨by decide +kernel, fun l _ => armMargin_append_ne (by decide) l, by decide +kernel⟩
  rw [readValues, hcode, cutAtLast_append (implHeader_not_mem hT), Option.bind_eq_bind,
    Option.bind_some]
  dsimp only
  rw [hafter, Option.bind_eq_bind, Option.bind_some, List.head?_cons, Option.bind_eq_bind,
    Option.bind_some, valuesLine, dropPrefix?_append]
  exact readLiterals_joinWith unquote?_literal (by decide) hvalues

end

end CatchAll.Target.Rust
