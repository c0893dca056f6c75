import CatchAll.Proofs.Target.CommentLines
import CatchAll.Proofs.Text.Separators
import CatchAll.Target.RustModule
import Mathlib.Data.List.SplitBy

/-!
# Tidy text as a normal form

The lines of a text fall into runs of lines that show something and runs of blank
lines. Tidying takes the blanks from the ends of the first and leaves two empty lines
at most of the second, so what is left has the same runs, each in its tidy form. A
tidy run stays as it is, hence so does a tidy text. A line ending that begins with a
carriage return adds a blank to each line but the last, which tidying takes away again.
-/

set_option autoImplicit false

namespace CatchAll

open scoped Text

/-! ## Stripped lines -/

namespace Text

theorem stripEnd_stripEnd (line : Text) : stripEnd (stripEnd line) = stripEnd line :=
  List.rdropWhile_idempotent isBlank line

theorem stripEnd_append_blanks (line : Text) {blanks : Text} (h : ∀ c ∈ blanks, isBlank c = true) :
    stripEnd (line ++ blanks) = stripEnd line := by
  induction blanks using List.reverseRecOn with
  | nil => rw [List.append_nil]
  | append_singleton blanks c ih =>
    obtain ⟨hblanks, hc⟩ := List.forall_mem_append.mp h
    rw [← List.append_assoc, ← ih hblanks]
    exact List.rdropWhile_concat_pos isBlank (line ++ blanks) c (hc c List.mem_cons_self)

theorem allBlank_stripEnd (line : Text) : allBlank (stripEnd line) = allBlank line := by
  rw [Bool.eq_iff_iff, ← stripEnd_eq_nil, ← stripEnd_eq_nil, stripEnd_stripEnd]

theorem not_isBlank_of_getLast {line : Text} {c : Char} (h : (stripEnd line).getLast? = some c) :
    isBlank c = false := by
  have hne : stripEnd line ≠ [] := by
    intro hempty
    rw [hempty] at h
    cases h
  rw [List.getLast?_eq_some_getLast hne, Option.some.injEq] at h
  exact h ▸ Bool.eq_false_iff.mpr (List.rdropWhile_last_not isBlank line hne)

end Text

namespace Generator

open Target.Rust (tidyLines_shown tidyLines_blank mem_tidyLines tidyLines_ne_nil)

/-! ## Runs of lines -/

/-- The lines in runs, each as long as can be, of blank lines or of lines that show something. -/
def lineRuns (ls : List Text) : List (List Text) :=
  ls.splitBy fun a b => Text.allBlank a == Text.allBlank b

/-- A run as tidying leaves it. -/
def tidyRun (run : List Text) : List Text :=
  if run.all Text.allBlank then List.replicate (min run.length 2) [] else run.map Text.stripEnd

/-- Some lines that are all blank, or none of them. -/
def Uniform (blank : Bool) (run : List Text) : Prop :=
  run ≠ [] ∧ ∀ line ∈ run, Text.allBlank line = blank

/-- Two runs of which exactly one is blank. -/
def Differ (a b : List Text) : Prop := ∃ blank, Uniform blank a ∧ Uniform (!blank) b

structure AreRuns (runs : List (List Text)) : Prop where
  uniform : ∀ run ∈ runs, ∃ blank, Uniform blank run
  differ : runs.IsChain Differ

theorem Uniform.unique {a b : Bool} {run : List Text} (h : Uniform a run) (h' : Uniform b run) :
    a = b := by
  obtain ⟨line, rest, rfl⟩ := List.exists_cons_of_ne_nil h.1
  exact (h.2 line List.mem_cons_self).symm.trans (h'.2 line List.mem_cons_self)

theorem uniform_of_isChain {line : Text} {rest : List Text}
    (h : (line :: rest).IsChain fun a b => (Text.allBlank a == Text.allBlank b) = true) :
    Uniform (Text.allBlank line) (line :: rest) := by
  refine ⟨List.cons_ne_nil line rest, ?_⟩
  induction rest generalizing line with
  | nil => simp
  | cons next rest ih =>
    obtain ⟨hnext, hrest⟩ := List.isChain_cons_cons.mp h
    rw [List.forall_mem_cons]
    exact ⟨rfl, eq_of_beq hnext ▸ ih hrest⟩

theorem areRuns_lineRuns (ls : List Text) : AreRuns (lineRuns ls) := by
  have huniform : ∀ run ∈ lineRuns ls, ∃ blank, Uniform blank run := by
    intro run hrun
    obtain ⟨line, rest, rfl⟩ := List.exists_cons_of_ne_nil (List.ne_nil_of_mem_splitBy hrun)
    exact ⟨_, uniform_of_isChain (List.isChain_of_mem_splitBy hrun)⟩
  refine ⟨huniform, (List.isChain_getLast_head_splitBy _ ls).imp_of_mem_imp ?_⟩
  rintro a b ha hb ⟨hne, hne', hdiffer⟩
  obtain ⟨x, hx⟩ := huniform a ha
  obtain ⟨y, hy⟩ := huniform b hb
  rw [hx.2 _ (List.getLast_mem hne), hy.2 _ (List.head_mem hne')] at hdiffer
  refine ⟨x, hx, ?_⟩
  cases x <;> cases y <;> first | exact hy | cases hdiffer

/-- Runs are found again in their lines. -/
theorem AreRuns.lineRuns_flatten {runs : List (List Text)} (h : AreRuns runs) :
    lineRuns runs.flatten = runs := by
  apply List.splitBy_flatten
  · intro hempty
    obtain ⟨_, hne, -⟩ := h.uniform [] hempty
    exact hne rfl
  · intro run hrun
    obtain ⟨blank, -, hlines⟩ := h.uniform run hrun
    refine List.Pairwise.isChain (List.pairwise_of_forall_mem_list fun a ha b hb => ?_)
    rw [hlines a ha, hlines b hb, beq_self_eq_true]
  · refine h.differ.imp fun a b => ?_
    rintro ⟨blank, ⟨hne, hlines⟩, hne', hlines'⟩
    refine ⟨hne, hne', ?_⟩
    rw [hlines _ (List.getLast_mem hne), hlines' _ (List.head_mem hne')]
    cases blank <;> rfl

/-! ## Tidy runs -/

theorem tidyRun_blank {run : List Text} (h : Uniform true run) :
    tidyRun run = List.replicate (min run.length 2) [] :=
  if_pos (List.all_eq_true.mpr h.2)

theorem tidyRun_shown {run : List Text} (h : Uniform false run) :
    tidyRun run = run.map Text.stripEnd := by
  obtain ⟨line, rest, rfl⟩ := List.exists_cons_of_ne_nil h.1
  refine if_neg fun hall => ?_
  rw [List.all_cons, h.2 line List.mem_cons_self] at hall
  cases hall

theorem Uniform.tidyRun {blank : Bool} {run : List Text} (h : Uniform blank run) :
    Uniform blank (tidyRun run) := by
  cases blank with
  | true =>
    rw [tidyRun_blank h]
    refine ⟨?_, fun line hline => ?_⟩
    · have hpos := List.length_pos_iff.mpr h.1
      rw [Ne, List.replicate_eq_nil_iff]
      omega
    · rw [List.eq_of_mem_replicate hline]
      rfl
  | false =>
    rw [tidyRun_shown h]
    refine ⟨by simpa using h.1, fun line hline => ?_⟩
    obtain ⟨line, hmem, rfl⟩ := List.mem_map.mp hline
    rw [Text.allBlank_stripEnd, h.2 line hmem]

theorem tidyRun_tidyRun {run : List Text} (h : ∃ blank, Uniform blank run) :
    tidyRun (tidyRun run) = tidyRun run := by
  obtain ⟨blank, h⟩ := h
  cases blank with
  | true =>
    rw [tidyRun_blank h.tidyRun, tidyRun_blank h, List.length_replicate,
      Nat.min_eq_left (Nat.min_le_right ..)]
  | false =>
    rw [tidyRun_shown h.tidyRun, tidyRun_shown h, List.map_map]
    exact List.map_congr_left fun line _ => Text.stripEnd_stripEnd line

theorem AreRuns.map_tidyRun {runs : List (List Text)} (h : AreRuns runs) :
    AreRuns (runs.map tidyRun) where
  uniform := by
    intro run hrun
    obtain ⟨run, hmem, rfl⟩ := List.mem_map.mp hrun
    obtain ⟨blank, huniform⟩ := h.uniform run hmem
    exact ⟨blank, huniform.tidyRun⟩
  differ := List.isChain_map_of_isChain tidyRun
    (fun _ _ ⟨blank, ha, hb⟩ => ⟨blank, ha.tidyRun, hb.tidyRun⟩) h.differ

/-! ## Tidy lines -/

theorem tidyLines_append_shown {run : List Text} (h : Uniform false run) (blanks : Nat)
    (rest : List Text) :
    tidyLines blanks (run ++ rest) = tidyRun run ++ tidyLines 0 rest := by
  rw [tidyRun_shown h]
  obtain ⟨hne, hlines⟩ := h
  induction run generalizing blanks with
  | nil => exact absurd rfl hne
  | cons line run ih =>
    obtain ⟨hline, hrun⟩ := List.forall_mem_cons.mp hlines
    rw [List.cons_append, tidyLines_shown hline, List.map_cons, List.cons_append]
    cases run with
    | nil => rfl
    | cons next run => rw [ih 0 (List.cons_ne_nil next run) hrun]

/-- Of blank lines as many are kept as there is room for. -/
theorem tidyLines_append_blank {run : List Text} (h : ∀ line ∈ run, Text.allBlank line = true)
    (blanks : Nat) (rest : List Text) :
    tidyLines blanks (run ++ rest) =
      List.replicate (min run.length (2 - blanks)) [] ++ tidyLines (blanks + run.length) rest := by
  induction run generalizing blanks with
  | nil => simp
  | cons line run ih =>
    obtain ⟨hline, hrun⟩ := List.forall_mem_cons.mp h
    have hcount : blanks + 1 + run.length = blanks + (line :: run).length := by
      rw [List.length_cons]
      omega
    rw [List.cons_append, tidyLines_blank hline, ih hrun, hcount]
    split
    · have hroom : min (line :: run).length (2 - blanks) =
          min run.length (2 - (blanks + 1)) + 1 := by
        rw [List.length_cons]
        omega
      rw [hroom, List.replicate_succ, List.cons_append]
    · have hroom : min (line :: run).length (2 - blanks) =
          min run.length (2 - (blanks + 1)) := by omega
      rw [hroom]

/-- The runs are tidied one by one. A count of blank lines from before is without effect,
since it is nothing at the start and a run that shows something comes after a blank one. -/
theorem AreRuns.tidyLines_flatten {runs : List (List Text)} (h : AreRuns runs) {blanks : Nat}
    (hblanks : blanks ≠ 0 → ∀ run ∈ runs.head?, Uniform false run) :
    tidyLines blanks runs.flatten = runs.flatMap tidyRun := by
  induction runs generalizing blanks with
  | nil => rfl
  | cons run runs ih =>
    have hrest : AreRuns runs :=
      ⟨fun r hr => h.uniform r (List.mem_cons_of_mem run hr), h.differ.tail⟩
    rw [List.flatten_cons, List.flatMap_cons]
    obtain ⟨blank, huniform⟩ := h.uniform run List.mem_cons_self
    cases blank with
    | false => rw [tidyLines_append_shown huniform, ih hrest fun hne => absurd rfl hne]
    | true =>
      have hnone : blanks = 0 := by
        by_contra hne
        have hshown := hblanks hne run rfl
        cases huniform.unique hshown
      rw [hnone, tidyLines_append_blank huniform.2, tidyRun_blank huniform, ih hrest]
      intro _ next hnext
      obtain ⟨blank, hrun, hdiffers⟩ := (List.isChain_cons.mp h.differ).1 next hnext
      rwa [← huniform.unique hrun] at hdiffers

theorem tidyLines_eq_flatMap (ls : List Text) : tidyLines 0 ls = (lineRuns ls).flatMap tidyRun := by
  have hruns : tidyLines 0 (lineRuns ls).flatten = (lineRuns ls).flatMap tidyRun :=
    (areRuns_lineRuns ls).tidyLines_flatten fun h => absurd rfl h
  rwa [lineRuns, List.flatten_splitBy] at hruns

/-- The runs of tidy lines are the tidy runs. -/
theorem lineRuns_tidyLines (ls : List Text) :
    lineRuns (tidyLines 0 ls) = (lineRuns ls).map tidyRun := by
  rw [tidyLines_eq_flatMap, List.flatMap_def]
  exact (areRuns_lineRuns ls).map_tidyRun.lineRuns_flatten

theorem tidyLines_tidyLines (ls : List Text) : tidyLines 0 (tidyLines 0 ls) = tidyLines 0 ls := by
  rw [tidyLines_eq_flatMap (tidyLines 0 ls), lineRuns_tidyLines, tidyLines_eq_flatMap,
    List.flatMap_map]
  exact List.flatMap_congr fun run hrun => tidyRun_tidyRun ((areRuns_lineRuns ls).uniform run hrun)

/-- What stands at the ends of lines does not matter. -/
theorem tidyLines_map_stripEnd (ls : List Text) (blanks : Nat) :
    tidyLines blanks (ls.map Text.stripEnd) = tidyLines blanks ls := by
  induction ls generalizing blanks with
  | nil => rfl
  | cons line rest ih =>
    rw [List.map_cons]
    simp only [tidyLines, Text.stripEnd_stripEnd, ih]

/-! ## Room for empty lines -/

theorem emptyLines_le_of_prefix {k blanks : Nat} {ls : List Text}
    (h : List.replicate k [] <+: tidyLines blanks ls) : k + min blanks 2 ≤ 2 := by
  induction ls generalizing k blanks with
  | nil =>
    have hlength := h.length_le
    rw [List.length_replicate, tidyLines, List.length_nil] at hlength
    omega
  | cons line rest ih =>
    cases k with
    | zero => omega
    | succ k =>
      cases hline : Text.allBlank line with
      | false =>
        rw [tidyLines_shown hline, List.replicate_succ, List.cons_prefix_cons] at h
        rw [Text.stripEnd_eq_nil.mp h.1.symm] at hline
        cases hline
      | true =>
        rw [tidyLines_blank hline] at h
        split at h
        · rw [List.replicate_succ, List.prefix_cons_inj] at h
          have hroom := ih h
          omega
        · have hroom := ih h
          omega

/-- No more than two lines in a row are empty. -/
theorem emptyLines_le_of_infix {k blanks : Nat} {ls : List Text}
    (h : List.replicate k [] <:+: tidyLines blanks ls) : k ≤ 2 := by
  have hstart {n : Nat} {ls : List Text} (h : List.replicate k [] <+: tidyLines n ls) : k ≤ 2 := by
    have hroom := emptyLines_le_of_prefix h
    omega
  induction ls generalizing blanks with
  | nil =>
    rw [tidyLines, List.infix_nil, List.replicate_eq_nil_iff] at h
    omega
  | cons line rest ih =>
    cases hline : Text.allBlank line with
    | false =>
      have hlines := tidyLines_shown hline blanks rest
      rw [hlines, List.infix_cons_iff, ← hlines] at h
      exact h.elim hstart ih
    | true =>
      have hlines := tidyLines_blank hline blanks rest
      split at hlines
      · rw [hlines, List.infix_cons_iff, ← hlines] at h
        exact h.elim hstart ih
      · rw [hlines] at h
        exact ih h

/-! ## Line endings -/

/-- A line feed, perhaps with blanks before it. -/
def EndsLines (ending : Text) : Prop :=
  ∃ mark : Text, ending = mark ++ ['\n'] ∧ ∀ c ∈ mark, Text.isBlank c = true ∧ c ≠ '\n'

theorem endsLines_of_known {ending : Text} (h : ending = "\n" ∨ ending = "\r\n") :
    EndsLines ending := by
  rcases h with rfl | rfl
  · exact ⟨[], rfl, List.forall_mem_nil _⟩
  · exact ⟨['\r'], rfl, List.forall_mem_singleton.mpr (by decide)⟩

variable {g : Generator} {ending : Text}

theorem withEnding_of_single {l : Text} (h : '\n' ∉ l) : withEnding ending l = l := by
  have hkept : ∀ c ∈ l, (if c = '\n' then ending else [c]) = [c] :=
    fun c hc => if_neg (by rintro rfl; exact h hc)
  rw [withEnding, List.flatMap_congr hkept, List.flatMap_singleton']

theorem withEnding_unlines {ls : List Text} (h : ∀ l ∈ ls, '\n' ∉ l) :
    withEnding ending (Text.unlines ls) = Text.joinWith ending ls := by
  induction ls with
  | nil => rfl
  | cons l ls ih =>
    obtain ⟨hl, hls⟩ := List.forall_mem_cons.mp h
    cases ls with
    | nil => simpa [Text.unlines, Text.joinWith] using withEnding_of_single hl
    | cons next ls =>
      have hrest := ih hls
      have hfeed (t : Text) : withEnding ending ('\n' :: t) = ending ++ withEnding ending t := rfl
      rw [Text.unlines_cons (List.cons_ne_nil next ls), Text.joinWith_cons_cons, ← hrest,
        List.append_assoc, ← hfeed, withEnding, List.flatMap_append]
      exact congrArg (· ++ _) (withEnding_of_single hl)

theorem lineFeed_not_mem_tidyLines (code : Text) : ∀ l ∈ tidyLines 0 (Text.lines code), '\n' ∉ l := by
  intro l hl hfeed
  obtain ⟨line, hline, rfl⟩ := mem_tidyLines hl
  exact Text.lineFeed_not_mem_line hline ((List.rdropWhile_prefix Text.isBlank line).subset hfeed)

/-- The tidy lines of a text, joined by the line ending. -/
theorem format_eq_joinWith (h : g.plan.config.lineEnding = .str ending) (code : Text) :
    g.format code = .ok (Text.joinWith ending (tidyLines 0 (Text.lines code))) := by
  rw [format, h]
  exact congrArg Except.ok (withEnding_unlines (lineFeed_not_mem_tidyLines code))

/-- Cut at line feeds, lines that were joined by a line ending have blanks added at their ends. -/
theorem stripped_lines_joinWith (h : EndsLines ending) {ls : List Text} (hne : ls ≠ [])
    (hfeed : ∀ l ∈ ls, '\n' ∉ l) :
    (Text.lines (Text.joinWith ending ls)).map Text.stripEnd = ls.map Text.stripEnd := by
  obtain ⟨mark, rfl, hmark⟩ := h
  induction ls with
  | nil => exact absurd rfl hne
  | cons l ls ih =>
    obtain ⟨hl, hls⟩ := List.forall_mem_cons.mp hfeed
    cases ls with
    | nil =>
      have hsingle : Text.joinWith (mark ++ ['\n']) [l] = l := by simp [Text.joinWith]
      rw [hsingle, Text.lines_of_single hl]
    | cons next ls =>
      have hline : '\n' ∉ l ++ mark := by
        rw [List.mem_append, not_or]
        exact ⟨hl, fun hmem => (hmark _ hmem).2 rfl⟩
      have hjoin : Text.joinWith (mark ++ ['\n']) (l :: next :: ls) =
          (l ++ mark) ++ '\n' :: Text.joinWith (mark ++ ['\n']) (next :: ls) := by
        rw [Text.joinWith_cons_cons]
        simp
      rw [hjoin, Text.lines_append_lineFeed, Text.lines_of_single hline, List.singleton_append,
        List.map_cons, ih (List.cons_ne_nil next ls) hls,
        Text.stripEnd_append_blanks l fun c hc => (hmark c hc).1]
      rfl

/-- What a line ending has before its line feed stands before each line feed. -/
theorem mark_before_lineFeed {mark : Text} (hmark : '\n' ∉ mark) {ls : List Text}
    (hfeed : ∀ l ∈ ls, '\n' ∉ l) {before after : Text}
    (h : Text.joinWith (mark ++ ['\n']) ls = before ++ '\n' :: after) : mark <:+ before := by
  induction ls generalizing before with
  | nil => simp [Text.joinWith] at h
  | cons l ls ih =>
    obtain ⟨hl, hls⟩ := List.forall_mem_cons.mp hfeed
    cases ls with
    | nil =>
      have hmem : '\n' ∈ Text.joinWith (mark ++ ['\n']) [l] := by simp [h]
      exact absurd (by simpa [Text.joinWith] using hmem) hl
    | cons next ls =>
      have hline : '\n' ∉ l ++ mark := by simp [hl, hmark]
      rw [Text.joinWith_cons_cons, ← List.append_assoc, List.append_assoc (l ++ mark),
        List.singleton_append, List.append_eq_append_iff] at h
      rcases h with ⟨between, rfl, hrest⟩ | ⟨between, hbefore, hrest⟩
      · cases between with
        | nil => simp
        | cons c between =>
          obtain ⟨-, hrest⟩ := List.cons.inj hrest
          obtain ⟨init, hinit⟩ := ih hls hrest
          exact ⟨l ++ mark ++ c :: init, by simp [← hinit]⟩
      · cases between with
        | nil => exact ⟨l, by simpa using hbefore⟩
        | cons c between =>
          obtain ⟨rfl, -⟩ := List.cons.inj hrest
          exact absurd (by simp [hbefore]) hline

/-! ## The normal form -/

/-- Tidy text for a given text: cut at the line ending, no line ends with a blank and no more
than two lines in a row are empty. The lines that show something are those of the given
text but for blanks at their ends. Runs of lines answer one another, and of a run of
blank lines two are left at most, all of them empty. -/
structure IsTidied (ending code tidy : Text) : Prop where
  stripped : ∀ l ∈ Text.cutAt ending tidy, ∀ c, l.getLast? = some c → Text.isBlank c = false
  spaced : ∀ k, List.replicate k [] <:+: Text.cutAt ending tidy → k ≤ 2
  shown : (Text.cutAt ending tidy).filter (!Text.allBlank ·) =
    ((Text.lines code).filter (!Text.allBlank ·)).map Text.stripEnd
  runs : lineRuns (Text.cutAt ending tidy) = (lineRuns (Text.lines code)).map tidyRun

theorem filter_tidyLines (ls : List Text) (blanks : Nat) :
    (tidyLines blanks ls).filter (!Text.allBlank ·) =
      (ls.filter (!Text.allBlank ·)).map Text.stripEnd := by
  induction ls generalizing blanks with
  | nil => rfl
  | cons line rest ih =>
    cases hline : Text.allBlank line with
    | false =>
      rw [tidyLines_shown hline, List.filter_cons_of_pos, List.filter_cons_of_pos, List.map_cons,
        ih]
      · simp [hline]
      · simp [Text.allBlank_stripEnd, hline]
    | true =>
      rw [tidyLines_blank hline, List.filter_cons_of_neg (by simp [hline])]
      split
      · rw [List.filter_cons_of_neg (by simp [Text.allBlank]), ih]
      · exact ih (blanks + 1)

theorem isTidied_joinWith (h : EndsLines ending) (code : Text) :
    IsTidied ending code (Text.joinWith ending (tidyLines 0 (Text.lines code))) := by
  have hcut : Text.cutAt ending (Text.joinWith ending (tidyLines 0 (Text.lines code))) =
      tidyLines 0 (Text.lines code) := by
    obtain ⟨mark, rfl, hmark⟩ := h
    exact Text.cutAt_joinWith (fun hmem => (hmark _ hmem).2 rfl)
      (tidyLines_ne_nil (Text.lines_ne_nil code)) (lineFeed_not_mem_tidyLines code)
  constructor
  · intro l hl c hc
    rw [hcut] at hl
    obtain ⟨line, -, rfl⟩ := mem_tidyLines hl
    exact Text.not_isBlank_of_getLast hc
  · intro k hk
    rw [hcut] at hk
    exact emptyLines_le_of_infix hk
  · rw [hcut, filter_tidyLines]
  · rw [hcut, lineRuns_tidyLines]

/-- Tidying ends with a normal form: tidy text stays as it is. With a carriage return before
each line feed the text is otherwise the same. -/
theorem format_normal_form (hending : g.plan.config.lineEnding = .str ending)
    (h : ending = "\n" ∨ ending = "\r\n") (code : Text) :
    ∃ tidy, g.format code = .ok tidy ∧ g.format tidy = .ok tidy ∧ IsTidied ending code tidy ∧
      (ending = "\r\n" →
        (∀ before after, tidy = before ++ '\n' :: after → before.getLast? = some '\r') ∧
        ∀ g' : Generator, g'.plan.config.lineEnding = .str "\n" →
          g'.format code = .ok (Text.replace "\r\n" "\n" tidy)) := by
  have hends := endsLines_of_known h
  have hne := tidyLines_ne_nil (Text.lines_ne_nil code)
  have hfeed := lineFeed_not_mem_tidyLines code
  refine ⟨_, format_eq_joinWith hending code, ?_, isTidied_joinWith hends code, ?_⟩
  · rw [format_eq_joinWith hending, ← tidyLines_map_stripEnd,
      stripped_lines_joinWith hends hne hfeed, tidyLines_map_stripEnd, tidyLines_tidyLines]
  · rintro rfl
    have hmark : '\n' ∉ ['\r'] := by decide
    constructor
    · intro before after htidy
      obtain ⟨init, rfl⟩ := mark_before_lineFeed hmark hfeed htidy
      exact List.getLast?_concat
    · intro g' hending'
      rw [format_eq_joinWith hending']
      exact congrArg Except.ok (Text.replace_joinWith hmark "\n" hne hfeed).symm

/-- Lines that end with a carriage return already, a run of three blank lines, and a carriage
return that stands inside a line. -/
theorem returns_not_doubled :
    ∃ g, Generator.ofConfig Target.Rust.backend
        { Config.standard with lineEnding := .str "\r\n" } none = .ok g ∧
      g.format "a \r\n\r\n \n\t\r\nb\rc\r\n" = .ok "a\r\n\r\n\r\nb\rc\r\n" ∧
      g.format "a\r\n\r\n\r\nb\rc\r\n" = .ok "a\r\n\r\n\r\nb\rc\r\n" := by
  obtain ⟨g, hg⟩ : ∃ g, Generator.ofConfig Target.Rust.backend
      { Config.standard with lineEnding := .str "\r\n" } none = .ok g := ⟨_, rfl⟩
  have hending : g.plan.config.lineEnding = .str "\r\n" := by
    obtain rfl := Except.ok.inj hg
    rfl
  obtain ⟨tidy, hformat, hagain, -⟩ := format_normal_form hending (.inr rfl)
    "a \r\n\r\n \n\t\r\nb\rc\r\n"
  have htidy : tidy = "a\r\n\r\n\r\nb\rc\r\n".toList := by
    rw [format_eq_joinWith hending] at hformat
    rw [← Except.ok.inj hformat]
    decide
  rw [htidy] at hformat hagain
  exact ⟨g, hg, hformat, hagain⟩

end Generator

end CatchAll
