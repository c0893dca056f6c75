import CatchAll.Proofs.Config.Stages
import CatchAll.Proofs.Json.Reading

/-!
# Which source of a setting counts

A language specific setting may stand at the top level of a source or under
`custom`. Sources are merged level by level, and only then is the top level put
under `custom`. So the overrides count before the file and the file before the
defaults, except where the overrides give a setting under `custom` alone and the
file gives it at the top level: there the file counts.
-/

set_option autoImplicit false

namespace CatchAll.Config

open scoped Text
open Outcome Json

/-! ## Sources -/

/-- What stands under `custom`. -/
def inner (fields : Fields) : Fields :=
  match Table.get? "custom" fields with
  | some (.obj inner) => inner
  | _ => []

/-- A language specific setting at the top level. -/
def outer? (fields : Fields) (key : Text) : Option Json :=
  if isSetting key then none else Table.get? key fields

/-- The value a source gives to a language specific setting. -/
def given? (fields : Fields) (key : Text) : Option Json :=
  (outer? fields key).or (Table.get? key (inner fields))

/-- Whether `custom` is an object where a source has it. -/
def CustomIsObject (fields : Fields) : Prop :=
  ∀ v, Table.get? "custom" fields = some v → ∃ inner, v = .obj inner

/-- The overrides give a setting under `custom` alone, and the file at the top level. -/
def Hidden (file overrides : Fields) (key : Text) : Prop :=
  (outer? file key).isSome ∧ outer? overrides key = none ∧
    (Table.get? key (inner overrides)).isSome

/-- A configuration as fields. -/
def named (c : Config) : Fields :=
  [("output_file", c.outputFile), ("module_name", c.moduleName), ("indent_size", c.indentSize),
   ("use_tabs", c.useTabs), ("line_ending", c.lineEnding), ("type_case", c.typeCase),
   ("variant_case", c.variantCase), ("add_comments", c.addComments),
   ("add_header", c.addHeader), ("custom", c.custom)]

/-! ## Merging -/

/-- Fields that a source can be merged into. -/
structure Ready (fields : Fields) : Prop where
  keys : (Table.keys fields).Nodup
  custom : ∃ inner, Table.get? "custom" fields = some (.obj inner)

/-- What was merged into a base counts before what the base had. -/
structure Merged (new base merged : Fields) : Prop where
  ready : Ready merged
  top : ∀ key ≠ "custom".toList,
    Table.get? key merged = (Table.get? key new).or (Table.get? key base)
  inside : ∀ key,
    Table.get? key (inner merged) = (Table.get? key (inner new)).or (Table.get? key (inner base))

theorem inner_of_get? {fields found : Fields} (h : Table.get? "custom" fields = some (.obj found)) :
    inner fields = found := by
  rw [inner, h]

theorem inner_of_get?_ne {fields : Fields}
    (h : ∀ found, Table.get? "custom" fields ≠ some (.obj found)) : inner fields = [] := by
  rw [inner]
  split
  · exact absurd ‹_› (h _)
  · rfl

theorem inner_cons {key : Text} (h : key ≠ "custom") (value : Json) (fields : Fields) :
    inner ((key, value) :: fields) = inner fields := by
  rw [inner, Table.get?_cons, if_neg h, ← inner]

theorem inner_cons_custom (value : Json) (fields others : Fields) :
    inner (("custom".toList, value) :: fields) = inner (("custom".toList, value) :: others) := by
  rw [inner, inner, Table.get?_cons, Table.get?_cons, if_pos rfl, if_pos rfl]

theorem override_of_ne {key : Text} (h : key ≠ "custom") (base : Fields) (value : Json) :
    override base key value = .ok (base.put key value) := by
  cases value with
  | obj new => exact if_neg h
  | _ => rfl

/-- One setting is merged into a base that is ready. -/
theorem override_merged {base : Fields} (hbase : Ready base) {key : Text} {value : Json}
    (hcustom : key = "custom" → ∃ new, value = .obj new ∧ (Table.keys new).Nodup) :
    ∃ next, override base key value = .ok next ∧ Merged [(key, value)] base next := by
  by_cases hkey : key = "custom"
  · obtain ⟨new, rfl, hnew⟩ := hcustom hkey
    subst hkey
    obtain ⟨old, hold⟩ := hbase.custom
    have hput : Table.get? "custom" (base.put "custom" (.obj (Table.putAll new old))) =
        some (.obj (Table.putAll new old)) := by
      rw [Table.get?_put, if_pos rfl]
    refine ⟨base.put "custom" (.obj (Table.putAll new old)), ?_,
      ⟨Table.nodup_keys_put hbase.keys _ _, _, hput⟩, ?_, ?_⟩
    · rw [override, if_pos rfl, hold]
    · intro k hk
      rw [Table.get?_put, Table.get?_cons, if_neg (Ne.symm hk), if_neg (Ne.symm hk)]
      rfl
    · intro k
      have hsource : inner [("custom".toList, .obj new)] = new :=
        inner_of_get? (by rw [Table.get?_cons, if_pos rfl])
      rw [inner_of_get? hput, inner_of_get? hold, hsource, Table.get?_putAll hnew]
  · obtain ⟨old, hold⟩ := hbase.custom
    have hput : Table.get? "custom" (base.put key value) = some (.obj old) := by
      rw [Table.get?_put, if_neg hkey, hold]
    refine ⟨base.put key value, override_of_ne hkey base value,
      ⟨Table.nodup_keys_put hbase.keys _ _, _, hput⟩, ?_, ?_⟩
    · intro k hk
      rw [Table.get?_put, Table.get?_cons]
      split <;> rfl
    · intro k
      rw [inner_of_get? hput, inner_of_get? hold, inner_cons hkey]
      rfl

/-- One setting and then others that do not give it again. -/
theorem Merged.cons {base next merged rest : Fields} {key : Text} {value : Json}
    (hkey : key ∉ Table.keys rest) (hfirst : Merged [(key, value)] base next)
    (hrest : Merged rest next merged) : Merged ((key, value) :: rest) base merged where
  ready := hrest.ready
  top := by
    intro k hk
    rw [hrest.top k hk, hfirst.top k hk, Table.get?_cons, Table.get?_cons]
    split
    · subst k
      rw [Table.get?_eq_none.mpr hkey]
      rfl
    · rfl
  inside := by
    intro k
    rw [hrest.inside k, hfirst.inside k]
    by_cases hcustom : key = "custom"
    · have hnone : inner rest = [] := by
        apply inner_of_get?_ne
        intro found hfound
        exact hkey (hcustom ▸ List.mem_map.mpr ⟨_, Table.mem_of_get? hfound, rfl⟩)
      subst hcustom
      rw [hnone, inner_cons_custom value rest []]
      rfl
    · rw [inner_cons hcustom, inner_cons hcustom]
      rfl

theorem merge_merged {new base : Fields} (hbase : Ready base) (hnew : KeysDistinct (.obj new))
    (hcustom : CustomIsObject new) : ∃ merged, merge base new = .ok merged ∧
      Merged new base merged := by
  induction new generalizing base with
  | nil => exact ⟨base, rfl, hbase, fun _ _ => rfl, fun _ => rfl⟩
  | cons entry rest ih =>
    obtain ⟨key, value⟩ := entry
    obtain ⟨hkey, hkeys⟩ := List.nodup_cons.mp hnew.keys
    cases hnew with
    | obj _ hvalues =>
      obtain ⟨hvalue, hvalues⟩ := List.forall_mem_cons.mp hvalues
      have hobject : key = "custom" → ∃ new, value = .obj new ∧ (Table.keys new).Nodup := by
        intro hk
        obtain ⟨new, rfl⟩ := hcustom value (by rw [Table.get?_cons, if_pos hk])
        exact ⟨new, rfl, hvalue.keys⟩
      have hcustom' : CustomIsObject rest := by
        intro v hv
        apply hcustom
        rw [Table.get?_cons, if_neg, hv]
        rintro rfl
        exact hkey (List.mem_map.mpr ⟨_, Table.mem_of_get? hv, rfl⟩)
      obtain ⟨next, hnext, hfirst⟩ := override_merged hbase hobject
      obtain ⟨merged, hmerged, hrest⟩ := ih hfirst.ready (.obj hkeys hvalues) hcustom'
      refine ⟨merged, ?_, hfirst.cons hkey hrest⟩
      rw [merge, List.foldlM_cons]
      exact bind_eq_ok.mpr ⟨next, hnext, hmerged⟩

/-! ## Gathering -/

/-- The top level is put under `custom` last, so it counts before what is there. -/
theorem gather_merged {merged : Fields} (h : Ready merged) :
    ∃ fields custom, gather merged = .ok fields ∧
      Table.get? "custom" fields = some (.obj custom) ∧
      (∀ key ≠ "custom".toList, isSetting key = true →
        Table.get? key fields = Table.get? key merged) ∧
      ∀ key, Table.get? key custom =
        (outer? merged key).or (Table.get? key (inner merged)) := by
  obtain ⟨old, hold⟩ := h.custom
  have hown : ∀ key, Table.get? key (merged.filter fun field => isSetting field.1) =
      if isSetting key then Table.get? key merged else none :=
    Table.get?_filter isSetting merged
  have hspecial : ∀ key, Table.get? key (merged.filter fun field => !isSetting field.1) =
      outer? merged key := by
    intro key
    rw [Table.get?_filter (fun k => !isSetting k) merged key, outer?]
    cases isSetting key <;> rfl
  have hcustom : Table.get? "custom" (merged.filter fun field => isSetting field.1) =
      some (.obj old) := by
    rw [hown, if_pos (by decide), hold]
  have hinner := inner_of_get? hold
  rw [gather]
  split
  · rename_i hempty
    refine ⟨_, old, rfl, hcustom, fun key _ hkey => ?_, fun key => ?_⟩
    · rw [hown, if_pos hkey]
    · rw [← hspecial, List.isEmpty_iff.mp hempty, hinner]
      rfl
  · have hkeys : (Table.keys (merged.filter fun field => !isSetting field.1)).Nodup :=
      h.keys.sublist (List.filter_sublist.map _)
    refine ⟨_, Table.putAll (merged.filter fun field => !isSetting field.1) old,
      by rw [hcustom]; rfl, ?_, fun key hne hkey => ?_, fun key => ?_⟩
    · rw [Table.get?_put, if_pos rfl]
    · rw [Table.get?_put, if_neg (Ne.symm hne), hown, if_pos hkey]
    · rw [Table.get?_putAll hkeys, hspecial, hinner]

/-- A configuration has what the fields give, and what is standard where they do not. -/
theorem named_ofFields (fields : Fields) {key : Text} (h : isSetting key = true) :
    Table.get? key (named (ofFields fields)) =
      (Table.get? key fields).or (Table.get? key (named standard)) := by
  have hmem : key ∈ settingNames := by simpa [isSetting] using h
  have hpair (k : Text) (v : Json) : (Table.get? k fields).or (some v) =
      some ((Table.get? k fields).getD v) := by
    cases Table.get? k fields <;> rfl
  simp only [settingNames, List.mem_cons, List.not_mem_nil, or_false] at hmem
  rcases hmem with rfl | rfl | rfl | rfl | rfl | rfl | rfl | rfl | rfl | rfl <;>
    exact (hpair _ _).symm

/-! ## Resolving -/

theorem ready_defaults (language : Text) : Ready (defaults language) := by
  rw [defaults]
  split_ifs
  · exact ⟨by decide, _, rfl⟩
  · exact ⟨by decide, _, rfl⟩
  · exact ⟨by decide, _, rfl⟩

theorem outer?_defaults (language key : Text) : outer? (defaults language) key = none := by
  have hall : ∀ k ∈ Table.keys (defaults language), isSetting k = true := by
    rw [defaults]
    split_ifs <;> decide
  rw [outer?]
  split
  · rfl
  · exact Table.get?_eq_none.mpr fun hmem => ‹¬ _› (hall key hmem)

/-- What a file gives; a file without a name stands for none. -/
def FileGives (tree : Files.Tree) (file : Text) (fields : Fields) : Prop :=
  if file = [] then fields = []
  else readFile (Files.Path.ofText file).text (tree.probe (Files.Path.ofText file)) =
    .ok (.obj fields)

theorem FileGives.keysDistinct {tree : Files.Tree} {file : Text} {fields : Fields}
    (h : FileGives tree file fields) : KeysDistinct (.obj fields) := by
  rw [FileGives] at h
  split at h
  · subst h
    exact .obj List.nodup_nil fun _ he => absurd he List.not_mem_nil
  · simp only [readFile] at h
    split at h
    · cases h
    · cases h
    · split_ifs at h
    · split_ifs at h
      split at h
      · cases h
      · split at h
        · rename_i hread
          cases h
          exact read_keysDistinct hread
        · cases h
        · cases h
        · cases h

theorem loadFile_run {tree : Files.Tree} {file : Text} {fields : Fields} (hfile : file ≠ [])
    (h : FileGives tree file fields) (j : Journal) :
    ∃ j', (ExceptT.run (loadFile tree file)).run j = (.ok fields, j') := by
  rw [FileGives, if_neg hfile] at h
  rw [loadFile, h]
  exact ⟨_, rfl⟩

variable {tree : Files.Tree} {language file : Text} {stored overrides base merged fields : Fields}

theorem underlying_run (hfile : FileGives tree file stored)
    (hbase : merge (defaults language) stored = .ok base) (j : Journal) :
    ∃ j', (ExceptT.run (underlying tree language file)).run j = (.ok base, j') := by
  rw [underlying]
  split_ifs with hname
  · rw [FileGives, if_pos hname] at hfile
    subst hfile
    obtain rfl : defaults language = base := Except.ok.inj hbase
    exact ⟨j, rfl⟩
  · obtain ⟨j₁, hload⟩ := loadFile_run hname hfile j
    refine ⟨j₁, ?_⟩
    rw [journaled_bind, hload]
    exact journaled_lift_ok.mpr ⟨congrArg ofOutside hbase, rfl⟩

theorem resolve_run (hfile : FileGives tree file stored)
    (hbase : merge (defaults language) stored = .ok base)
    (hmerged : merge base overrides = .ok merged) (hfields : gather merged = .ok fields)
    (j : Journal) :
    ∃ j', (ExceptT.run (resolve tree language overrides file)).run j =
      ((ofFields fields).check.map fun _ => ofFields fields, j') := by
  have hcompleted : completed overrides base =
      (ofFields fields).check.map fun _ => ofFields fields := by
    have hassembled : merge base overrides >>= gather = .ok fields :=
      bind_eq_ok.mpr ⟨merged, hmerged, hfields⟩
    rw [completed, hassembled]
    show (ofFields fields).check >>= _ = _
    cases (ofFields fields).check <;> rfl
  obtain ⟨j', hrun⟩ := underlying_run hfile hbase j
  refine ⟨j', ?_⟩
  rw [resolve_eq, journaled_bind, hrun]
  simp only [hcompleted]
  cases (ofFields fields).check <;> rfl

theorem Merged.outer? {new : Fields} (h : Merged new base merged) (key : Text) :
    outer? merged key = (outer? new key).or (outer? base key) := by
  simp only [Config.outer?]
  split
  · rfl
  · rename_i hkey
    apply h.top
    rintro rfl
    exact hkey rfl

/-- A level at a time is a source at a time, unless the second source has the first
level and the first source the second level alone. -/
theorem or_levels {α : Type} (a b c d e : Option α) :
    (¬ (b.isSome ∧ a = none ∧ c.isSome) → (a.or b).or (c.or (d.or e)) =
      (a.or c).or ((b.or d).or e)) ∧
    ((b.isSome ∧ a = none ∧ c.isSome) → (a.or b).or (c.or (d.or e)) = b) := by
  cases a <;> cases b <;> cases c <;> simp

/-- A configuration whose settings come from the overrides, else from the file, else
from the defaults; a hidden setting comes from the file. -/
structure Resolved (language : Text) (stored overrides : Fields) (config : Config)
    (custom : Fields) : Prop where
  custom_eq : config.custom = .obj custom
  special : ∀ key, ¬ Hidden stored overrides key → Table.get? key custom =
    (given? overrides key).or ((given? stored key).or (given? (defaults language) key))
  hidden : ∀ key, Hidden stored overrides key → Table.get? key custom = outer? stored key
  kept : ∀ source ∈ [overrides, stored, defaults language], ∀ key,
    (given? source key).isSome → (Table.get? key custom).isSome
  setting : ∀ key ≠ "custom".toList, isSetting key = true → Table.get? key (named config) =
    (Table.get? key overrides).or ((Table.get? key stored).or
      ((Table.get? key (defaults language)).or (Table.get? key (named standard))))

/-- There is one configuration to be made, and it is made unless its check fails. -/
theorem setting_precedence (hfile : FileGives tree file stored) (hstored : CustomIsObject stored)
    (hdistinct : KeysDistinct (.obj overrides)) (hoverrides : CustomIsObject overrides) :
    ∃ config custom, Resolved language stored overrides config custom ∧
      ∀ j, ∃ j', (ExceptT.run (resolve tree language overrides file)).run j =
        (config.check.map fun _ => config, j') := by
  obtain ⟨base, hbase, hfirst⟩ :=
    merge_merged (ready_defaults language) hfile.keysDistinct hstored
  obtain ⟨merged, hmerged, hsecond⟩ := merge_merged hfirst.ready hdistinct hoverrides
  obtain ⟨fields, custom, hfields, hcustom, hsettings, hspecial⟩ := gather_merged hsecond.ready
  have hlevels : ∀ key, Table.get? key custom =
      ((outer? overrides key).or (outer? stored key)).or
        ((Table.get? key (inner overrides)).or ((Table.get? key (inner stored)).or
          (Table.get? key (inner (defaults language))))) := by
    intro key
    rw [hspecial, hsecond.outer?, hfirst.outer?, outer?_defaults, Option.or_none,
      hsecond.inside, hfirst.inside]
  refine ⟨ofFields fields, custom, ?_, resolve_run hfile hbase hmerged hfields⟩
  constructor
  case custom_eq =>
    show (Table.get? "custom" fields).getD _ = _
    rw [hcustom]
    rfl
  case special =>
    intro key hkey
    rw [hlevels, given?, given?, given?, outer?_defaults, Option.none_or]
    exact (or_levels _ _ _ _ _).1 hkey
  case hidden =>
    intro key hkey
    rw [hlevels]
    exact (or_levels _ _ _ _ _).2 hkey
  case kept =>
    intro source hsource key hgiven
    rw [given?, Option.isSome_or, Bool.or_eq_true] at hgiven
    simp only [hlevels, Option.isSome_or, Bool.or_eq_true]
    simp only [List.mem_cons, List.not_mem_nil, or_false] at hsource
    rcases hsource with rfl | rfl | rfl
    · tauto
    · tauto
    · rw [outer?_defaults] at hgiven
      tauto
  case setting =>
    intro key hne hkey
    rw [named_ofFields fields hkey, hsettings key hne hkey, hsecond.top key hne,
      hfirst.top key hne, Option.or_assoc, Option.or_assoc]

theorem decode_toUTF8 (text : String) : Files.decode text.toUTF8 = .ok text.toList := by
  rw [Files.decode, String.fromUTF8?, String.toUTF8_eq_toByteArray, dif_pos text.isValidUTF8]
  rfl

theorem fileGives_of_text {text : String} (hname : file ≠ [])
    (hjson : (Files.Path.ofText (Files.Path.ofText file).text).isJson = true)
    (hprobe : tree.probe (Files.Path.ofText file) = .file text.toUTF8)
    (hread : Json.read text.toList = .ok (.obj fields)) : FileGives tree file fields := by
  rw [FileGives, if_neg hname, hprobe]
  simp only [readFile, hjson, if_true, decode_toUTF8, hread]

/-- A tree with one file of settings in it. -/
def settingsTree (text : String) : Files.Tree := [(["settings.json"], .file text.toUTF8)]

theorem settingsTree_gives {text : String} (hread : Json.read text.toList = .ok (.obj fields)) :
    FileGives (settingsTree text) "settings.json" fields :=
  fileGives_of_text (by decide) (by decide) rfl hread

/-- Each source gives settings in both forms. -/
theorem both_forms_resolved :
    let text := "\x7b\"visibility\": \"pub\", \"indent_size\": 2, \"custom\": \x7b\"docs\": \"\"\x7d\x7d"
    let stored : Fields := [("visibility", .str "pub"), ("indent_size", .int 2),
      ("custom", .obj [("docs", .str [])])]
    let overrides : Fields := [("custom", .obj [("docs", .str "Kinds")]),
      ("indent_size", .int 8), ("derives", Json.strings ["Debug"])]
    FileGives (settingsTree text) "settings.json" stored ∧ CustomIsObject stored ∧
      KeysDistinct (.obj overrides) ∧ CustomIsObject overrides ∧
      ∃ config custom, Resolved "rust" stored overrides config custom ∧
        ∀ j, ∃ j', (ExceptT.run
          (resolve (settingsTree text) "rust" overrides "settings.json")).run j =
            (config.check.map fun _ => config, j') := by
  intro text stored overrides
  have hfile : FileGives (settingsTree text) "settings.json" stored :=
    settingsTree_gives (by simp only [text, stored]; rfl)
  have hstored : CustomIsObject stored := fun v hv => ⟨_, (Option.some.inj hv).symm⟩
  have hdistinct : KeysDistinct (.obj overrides) := by
    refine .obj (by decide) ?_
    simp only [overrides, List.forall_mem_cons]
    exact ⟨.obj (by decide) (by simp [KeysDistinct.str]), .int 8,
      .arr (by simp [KeysDistinct.str]), by simp⟩
  have hoverrides : CustomIsObject overrides := fun v hv => ⟨_, (Option.some.inj hv).symm⟩
  exact ⟨hfile, hstored, hdistinct, hoverrides,
    setting_precedence hfile hstored hdistinct hoverrides⟩

/-- The overrides ask for one visibility and the other one of the file is used. -/
theorem hidden_override_lost :
    let overrides : Fields := [("custom", .obj [("visibility", .str "pub(crate)")])]
    given? overrides "visibility" = some (.str "pub(crate)") ∧
      ∃ config j', (ExceptT.run (resolve (settingsTree "\x7b\"visibility\": \"pub\"\x7d") "rust"
          overrides "settings.json")).run #[] = (.ok config, j') ∧
        config.setting? "visibility" = .ok (some (.str "pub")) := by
  intro overrides
  refine ⟨rfl, ?_⟩
  have hfile : FileGives (settingsTree "\x7b\"visibility\": \"pub\"\x7d") "settings.json"
      [("visibility", .str "pub")] := settingsTree_gives rfl
  have hbase : merge (defaults "rust") [("visibility", .str "pub")] =
      .ok ((defaults "rust").put "visibility" (.str "pub")) := rfl
  have hmerged : merge ((defaults "rust").put "visibility" (.str "pub")) overrides = .ok _ := rfl
  obtain ⟨j', hrun⟩ := resolve_run hfile hbase hmerged rfl #[]
  exact ⟨_, j', hrun, rfl⟩

end CatchAll.Config
