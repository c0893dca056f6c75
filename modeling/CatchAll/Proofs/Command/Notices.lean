import CatchAll.Command.Run
import CatchAll.Proofs.Command.Work
import CatchAll.Proofs.Console.Messages
import CatchAll.Proofs.Text.Lines
import CatchAll.Proofs.Text.Quoted

/-!
# Notices

What a command tells about a language, a place or a failure has texts of the user in it.
Some of these are escaped and some are not. A notice with an escaped text is shown for
every text; one with a text as it is given is shown exactly when the text has no tags,
and otherwise the command stops there or something is missing.
-/

set_option autoImplicit false

namespace CatchAll.Command

open scoped Text
open Console

/-! ## What is printed -/

theorem text_line (markup : Text) :
    (Block.line markup).text = (display markup).map (· ++ ['\n']) := by
  have hlines (ls : List Text) (hne : ls ≠ []) :
      (ls.flatMap fun line => line ++ ['\n']) = Text.unlines ls ++ ['\n'] := by
    induction ls with
    | nil => exact absurd rfl hne
    | cons l ls ih =>
      cases ls with
      | nil => simp [Text.unlines, Text.joinWith]
      | cons l' ls =>
        rw [List.flatMap_cons, ih (List.cons_ne_nil _ _), Text.unlines_cons (List.cons_ne_nil _ _)]
        simp
  cases hshown : display markup with
  | error fault =>
    rw [Block.text, Block.lines, hshown]
    rfl
  | ok shown =>
    rw [Block.text, Block.lines, hshown]
    have hline := hlines _ (Text.lines_ne_nil shown)
    rw [Text.unlines_lines] at hline
    exact congrArg Except.ok hline

/-- A line is printed and nothing else is done. -/
def Prints (work : Work Unit) (line : Text) : Prop :=
  ∀ world, Ends work world fun result world' =>
    result = .ok () ∧ world' = { world with err := world.err ++ (line ++ ['\n']) }

theorem prints_say_iff {markup shown : Text} :
    Prints (Work.say markup) shown ↔ display markup = .ok shown := by
  constructor
  · intro h
    obtain ⟨hresult, hworld⟩ := h ⟨[], [], [], none⟩
    rw [Work.say, Work.message, Work.rendered, text_line] at hresult hworld
    cases hshown : display markup with
    | error fault =>
      rw [hshown] at hresult
      cases hresult
    | ok t =>
      rw [hshown] at hworld
      have herr : [] ++ (t ++ ['\n']) = [] ++ (shown ++ ['\n']) := congrArg World.err hworld
      rw [List.append_cancel_right (List.append_cancel_left herr)]
  · intro h world
    rw [Work.say, Work.message, Work.rendered, text_line, h]
    exact ⟨rfl, rfl⟩

theorem ends_say_of_error {markup : Text} {fault : Fault} (h : display markup = .error fault)
    (world : World) : Ends (Work.say markup) world fun result _ =>
      result = .error (Work.stopOfFault fault) := by
  rw [Work.say, Work.message, Work.rendered, text_line, h]
  rfl

/-! ## Quoted places -/

section

variable {mark c : Char} {t : Text}

theorem isBracket_of_isMark (h : Text.IsMark mark) : isBracket mark = false := by
  rcases h with rfl | rfl <;> rfl

theorem isPrintable_of_isBracket (h : isBracket c = true) : Text.isPrintable c = true := by
  simp only [isBracket, Bool.or_eq_true, decide_eq_true_eq] at h
  rcases h with rfl | rfl <;> decide +kernel

theorem isBracket_of_isHexDigit (h : Text.isHexDigit c = true) : isBracket c = false := by
  by_contra hbracket
  simp only [Bool.not_eq_false, isBracket, Bool.or_eq_true, decide_eq_true_eq] at hbracket
  rcases hbracket with rfl | rfl <;> exact absurd h (by decide)

/-- A character is quoted as itself, or it is no bracket and there is none in what is written
for it behind a backslash. -/
theorem quotedChar_cases (hmark : Text.IsMark mark) (c : Char) : Text.quotedChar mark c = [c] ∨
    ∃ rest, Text.quotedChar mark c = '\\' :: rest ∧ bracket? rest = none ∧
      isBracket c = false := by
  have hplain {d : Char} (hd : isBracket d = false) : bracket? [d] = none :=
    bracket?_eq_none.mpr (List.forall_mem_singleton.mpr hd)
  rw [Text.quotedChar]
  split
  · next hself =>
    have hc : isBracket c = false := by
      rw [Bool.or_eq_true, decide_eq_true_eq, decide_eq_true_eq] at hself
      rcases hself with rfl | rfl
      · rfl
      · exact isBracket_of_isMark hmark
    exact .inr ⟨[c], rfl, hplain hc, hc⟩
  split
  · next hc => exact .inr ⟨['n'], rfl, hplain rfl, hc ▸ rfl⟩
  split
  · next hc => exact .inr ⟨['r'], rfl, hplain rfl, hc ▸ rfl⟩
  split
  · next hc => exact .inr ⟨['t'], rfl, hplain rfl, hc ▸ rfl⟩
  split
  · exact .inl rfl
  · next hprintable =>
    obtain ⟨letter, width, hletter, -, -, hescape⟩ := Text.Literal.codeEscape_eq c
    refine .inr ⟨letter :: Text.hex width c.toNat, hescape, ?_, ?_⟩
    · refine bracket?_eq_none.mpr (List.forall_mem_cons.mpr ⟨?_, fun d hd => ?_⟩)
      · simp only [Text.Literal.codeMarks, List.mem_cons, List.not_mem_nil, or_false,
          Prod.mk.injEq] at hletter
        rcases hletter with ⟨rfl, -⟩ | ⟨rfl, -⟩ | ⟨rfl, -⟩ <;> rfl
      · exact isBracket_of_isHexDigit (Text.Literal.isHexDigit_of_mem_hex hd)
    · by_contra hbracket
      exact hprintable (isPrintable_of_isBracket ((Bool.not_eq_false _).mp hbracket))

/-- The text behind the first mark. -/
def quotedRest (mark : Char) (t : Text) : Text := t.flatMap (Text.quotedChar mark) ++ [mark]

theorem quotedRest_cons : quotedRest mark (c :: t) =
    Text.quotedChar mark c ++ quotedRest mark t := List.append_assoc _ _ _

theorem bracket?_quotedRest (hmark : Text.IsMark mark) (t : Text) :
    bracket? (quotedRest mark t) = bracket? t := by
  induction t with
  | nil => exact bracket?_cons_of_not (isBracket_of_isMark hmark)
  | cons c t ih =>
    rw [quotedRest_cons, bracket?_append, ih]
    rcases quotedChar_cases hmark c with hself | ⟨rest, hescaped, hrest, hc⟩
    · rw [hself, ← bracket?_append]
      rfl
    · rw [hescaped, bracket?_cons_of_not rfl, hrest, Option.none_or, bracket?_cons_of_not hc]

theorem opens_quotedRest (hmark : Text.IsMark mark) (h : opens ('[' :: t) = false) :
    opens ('[' :: quotedRest mark t) = false := by
  cases t with
  | nil => exact Bool.and_false _
  | cons c t =>
    rw [quotedRest_cons]
    rcases quotedChar_cases hmark c with hself | ⟨rest, hescaped, -⟩
    · rw [hself, List.singleton_append, opens, bracket?_quotedRest hmark]
      exact h
    · rw [hescaped]
      rfl

theorem untagged_quotedRest (hmark : Text.IsMark mark) (h : Untagged t) :
    Untagged (quotedRest mark t) := by
  induction t with
  | nil => exact untagged_of_bare (bracket?_cons_of_not (isBracket_of_isMark hmark))
  | cons c t ih =>
    have hrest := ih (h.of_suffix (List.suffix_cons c t))
    rw [quotedRest_cons]
    rcases quotedChar_cases hmark c with hself | ⟨rest, hescaped, hbare, -⟩
    · rw [hself]
      by_cases hc : c = '['
      · subst hc
        exact untagged_cons (opens_quotedRest hmark (opens_of_untagged h)) hrest
      · exact untagged_append_left (by simpa using Ne.symm hc) hrest
    · rw [hescaped]
      refine untagged_append_left ?_ hrest
      rw [List.mem_cons, not_or]
      exact ⟨by decide, fun hmem => absurd (bracket?_eq_none.mp hbare _ hmem) (by decide)⟩

end

/-! ## The notices -/

def unknownLine (language : Text) : Text :=
  "[red]✗ Language '" ++ language ++ "' is not supported[/red]"

theorem showLanguage_of_unsupported {r : Registry} {language : Text}
    (h : r.isSupported language = false) : showLanguage r language = (do
      Work.say (unknownLine language)
      Work.say "[dim]Use --list-languages to see available options[/dim]"
      return 1) := by
  rw [showLanguage, if_neg (h ▸ Bool.false_ne_true)]
  rfl

/-- What is reported of a failed generation. -/
def reported (failure : Target.Failure) : Text :=
  failure.report?.getD Target.Failure.headline

inductive Notice where
  | unsupported (language : Text)
  | unknown (language : Text)
  | unwritten (path : Text) (why : Outside)
  | saved (path language : Text)
  | complaint (t : Text)
  | failed (failure : Target.Failure)
  | warned (warning : Text)

namespace Notice

/-- The markup of a notice. -/
def line : Notice → Text
  | unsupported language => unsupportedLine language
  | unknown language => unknownLine language
  | unwritten path why => unwrittenLine path why
  | saved path language => savedLine path language
  | complaint t => complaintLine t
  | failed failure => failureLine failure
  | warned warning => warningLine warning

theorem free_generated (language : Text) :
    (" Generated ".toList ++ language ++ " code saved to ".toList).getLast? ≠ some '\\' := by
  have hlast : " code saved to ".toList.getLast? = some ' ' := by decide
  rw [List.getLast?_append, hlast]
  exact fun h => absurd (Option.some.inj h) (by decide)

/-- The colors of a notice, and the texts that are put into them. -/
def message : Notice → Message
  | unsupported language =>
    .colored [] (by decide) .red ⟨"✗ Unsupported language '" ++ language ++ "'", false⟩
      (.tail ⟨[], false⟩)
  | unknown language =>
    .colored [] (by decide) .red ⟨"✗ Language '" ++ language ++ "' is not supported", false⟩
      (.tail ⟨[], false⟩)
  | unwritten path why =>
    .colored [] (by decide) .red ⟨"✗ Failed to write to " ++ path ++ ":", false⟩
      (.tail ⟨" " ++ systemComplaint path why, false⟩)
  | saved path language =>
    .colored [] (by decide) .green ⟨"✓", false⟩
      (.colored (" Generated " ++ language ++ " code saved to ") (free_generated language)
        .cyan ⟨path, false⟩ (.tail ⟨[], false⟩))
  | complaint t => .colored [] (by decide) .red ⟨"✗ Error:", false⟩ (.tail ⟨" " ++ t, true⟩)
  | failed failure =>
    .colored [] (by decide) .red ⟨"✗ " ++ reported failure, true⟩ (.tail ⟨[], false⟩)
  | warned warning =>
    .colored "  " (by decide) .yellow ⟨"•", false⟩ (.tail ⟨" " ++ warning, true⟩)

section

variable {ink : Ink} {start finish front behind text : Text} {w : Words} {rest : Message}

/-- Words in a color with fixed words around them. -/
theorem framed_eq (hwritten : w.written = front ++ text ++ behind)
    (hstart : start = '[' :: (ink.name ++ ']' :: front))
    (hfinish : finish = behind ++ '[' :: (ink.close ++ ']' :: rest.markup)) :
    start ++ text ++ finish = (Message.colored [] (by decide) ink w rest).markup := by
  rw [hstart, hfinish, Message.markup, hwritten]
  simp

/-- Fixed words in a color, and a text in another color at the end. -/
theorem marked_eq {ink' : Ink} {word middle text' : Text}
    (free : (front ++ text ++ behind).getLast? ≠ some '\\')
    (hstart : start =
      '[' :: (ink.name ++ ']' :: (word ++ '[' :: (ink.close ++ ']' :: front))))
    (hmiddle : middle = behind ++ '[' :: (ink'.name ++ [']']))
    (hfinish : finish = '[' :: (ink'.close ++ [']'])) :
    start ++ text ++ middle ++ text' ++ finish =
      (Message.colored [] (by decide) ink ⟨word, false⟩ (.colored (front ++ text ++ behind) free
        ink' ⟨text', false⟩ (.tail ⟨[], false⟩))).markup := by
  rw [hstart, hmiddle, hfinish]
  simp [Message.markup, Words.written]

/-- Fixed words in a color, and an escaped text behind them. -/
theorem headed_eq {lead : Text} (free : lead.getLast? ≠ some '\\') {word : Text}
    (hstart : start =
      lead ++ '[' :: (ink.name ++ ']' :: (word ++ '[' :: (ink.close ++ ']' :: " ".toList)))) :
    start ++ Console.escape text =
      (Message.colored lead free ink ⟨word, false⟩ (.tail ⟨" " ++ text, true⟩)).markup := by
  have hescape : Console.escape (" " ++ text) = " " ++ Console.escape text :=
    escape_append_left (by decide) (by decide)
  rw [hstart, Message.markup, Message.markup, Words.written, Words.written, if_pos rfl, hescape]
  simp

end

theorem line_eq (n : Notice) : n.line = n.message.markup := by
  cases n with
  | unsupported language => exact framed_eq rfl (by decide +kernel) (by decide +kernel)
  | unknown language => exact framed_eq rfl (by decide +kernel) (by decide +kernel)
  | unwritten path why =>
    have hfinish : ":[/red] ".toList ++ systemComplaint path why =
        ":" ++ '[' :: (Ink.red.close ++ ']' :: (" " ++ systemComplaint path why)) :=
      congrArg (· ++ systemComplaint path why)
        (by decide +kernel : ":[/red] ".toList = ":" ++ '[' :: (Ink.red.close ++ ']' :: " "))
    exact (List.append_assoc _ _ _).trans (framed_eq rfl (by decide +kernel) hfinish)
  | saved path language =>
    exact marked_eq _ (by decide +kernel) (by decide +kernel) (by decide +kernel)
  | complaint t => exact headed_eq _ (by decide +kernel)
  | failed failure =>
    have hescape : Console.escape ("✗ ".toList ++ reported failure) =
        "✗ ".toList ++ Console.escape (reported failure) ++ [] :=
      (escape_append_left (by decide) (by decide)).trans (List.append_nil _).symm
    exact framed_eq hescape (by decide +kernel) (by decide +kernel)
  | warned warning => exact headed_eq _ (by decide +kernel)

/-- The notice as it would be without colors. -/
def sentence : Notice → Text
  | unsupported language => "✗ Unsupported language '" ++ language ++ "'"
  | unknown language => "✗ Language '" ++ language ++ "' is not supported"
  | unwritten path why =>
    "✗ Failed to write to " ++ path ++ ":" ++ (" " ++ systemComplaint path why)
  | saved path language => "✓" ++ (" Generated " ++ language ++ " code saved to ") ++ path
  | complaint t => "✗ Error:" ++ (" " ++ guardEnd t)
  | failed failure => "✗ " ++ reported failure
  | warned warning => "  •" ++ (" " ++ guardEnd warning)

theorem sentence_eq (n : Notice) : n.sentence = n.message.literal := by
  have hguarded (t : Text) : " " ++ guardEnd t = guardEnd (" " ++ t) :=
    (guardEnd_append_left (by decide)).symm
  cases n with
  | unsupported language => exact (List.append_nil _).symm
  | unknown language => exact (List.append_nil _).symm
  | unwritten path why => rfl
  | saved path language =>
    refine (List.append_assoc _ _ _).trans (congrArg ("✓".toList ++ ·) ?_)
    exact congrArg (" Generated " ++ language ++ " code saved to " ++ ·) (List.append_nil _).symm
  | complaint t => exact congrArg ("✗ Error:".toList ++ ·) (hguarded t)
  | failed failure => exact (List.append_nil _).symm
  | warned warning =>
    have hbullet : "  •".toList = "  ".toList ++ "•".toList := by decide
    refine (congrArg (· ++ (" " ++ guardEnd warning)) hbullet).trans ?_
    refine (List.append_assoc _ _ _).trans (congrArg ("  ".toList ++ ·) ?_)
    exact congrArg ("•".toList ++ ·) (hguarded warning)

/-- The texts in a notice that come from elsewhere. -/
def texts : Notice → List Text
  | unsupported language => [language]
  | unknown language => [language]
  | unwritten path why => [path, systemComplaint path why]
  | saved path language => [path, language]
  | complaint t => [t]
  | failed failure => [reported failure]
  | warned warning => [warning]

theorem prefix_guardEnd (t : Text) : t <+: guardEnd t := by
  obtain ⟨u, k, hu, rfl⟩ := exists_end t
  obtain ⟨m, hm⟩ : ∃ m, guarded k = k + m := by
    refine Nat.exists_eq_add_of_le ?_
    unfold guarded
    split <;> omega
  rw [guardEnd_append hu, hm, List.replicate_add, ← List.append_assoc]
  exact List.prefix_append _ _

theorem texts_infix (n : Notice) : ∀ t ∈ n.texts, t <:+: n.sentence := by
  have hguarded (front t : Text) : t <:+: front ++ (" " ++ guardEnd t) :=
    (prefix_guardEnd t).isInfix.trans (((List.suffix_append _ _).trans
      (List.suffix_append front _)).isInfix)
  cases n with
  | unsupported language => exact List.forall_mem_singleton.mpr ⟨_, _, rfl⟩
  | unknown language => exact List.forall_mem_singleton.mpr ⟨_, _, rfl⟩
  | unwritten path why =>
    refine List.forall_mem_cons.mpr ⟨?_, List.forall_mem_singleton.mpr ?_⟩
    · exact List.IsInfix.trans ⟨_, _, rfl⟩ (List.prefix_append _ _).isInfix
    · exact ((List.suffix_append _ _).trans (List.suffix_append _ _)).isInfix
  | saved path language =>
    refine List.forall_mem_cons.mpr ⟨(List.suffix_append _ _).isInfix,
      List.forall_mem_singleton.mpr ?_⟩
    have hlead : language <:+: " Generated " ++ language ++ " code saved to " := ⟨_, _, rfl⟩
    exact hlead.trans ((List.suffix_append _ _).isInfix.trans (List.prefix_append _ _).isInfix)
  | complaint t => exact List.forall_mem_singleton.mpr (hguarded _ t)
  | failed failure => exact List.forall_mem_singleton.mpr (List.suffix_append _ _).isInfix
  | warned warning => exact List.forall_mem_singleton.mpr (hguarded _ warning)

/-- When the texts that are not escaped have no tags, and no backslash reaches the tag behind
a text. -/
def Safe : Notice → Prop
  | unsupported language => Untagged language
  | unknown language => Untagged language
  | unwritten path _ => Untagged path
  | saved path language => (Untagged path ∧ path.getLast? ≠ some '\\') ∧ Untagged language
  | complaint _ => True
  | failed failure => ¬ ['\\', '\\'] <:+ reported failure
  | warned _ => True

theorem untagged_framed {front text behind : Text} (hfront : '[' ∉ front)
    (hbehind : bracket? behind = none) : Untagged (front ++ text ++ behind) ↔ Untagged text := by
  rw [untagged_append_bare hbehind]
  exact ⟨fun h => h.of_suffix (List.suffix_append _ _), untagged_append_left hfront⟩

theorem untagged_systemComplaint {path : Text} (h : Untagged path) (why : Outside) :
    Untagged (systemComplaint path why) := by
  obtain ⟨told, htold, heq⟩ : ∃ told, '[' ∉ told ∧
      systemComplaint path why = '[' :: 'E' :: told ++ Text.quoted path := by
    cases why <;> exact ⟨_, by decide +kernel, rfl⟩
  have hmark := Text.isMark_quoteMark path
  have hquoted : Untagged (Text.quoted path) := by
    have hne : '[' ≠ Text.quoteMark path := by
      rcases hmark with hmark | hmark <;> rw [hmark] <;> decide
    exact untagged_append_left (a := [Text.quoteMark path]) (by simpa using hne)
      (untagged_quotedRest hmark h)
  have hopens : opens ('[' :: ('E' :: told ++ Text.quoted path)) = false := rfl
  rw [heq]
  refine untagged_cons hopens (untagged_append_left ?_ hquoted)
  rw [List.mem_cons, not_or]
  exact ⟨by decide, htold⟩

/-- Words in a color that end in something else than a backslash. -/
theorem clean_framed {front text behind : Text} {c : Char} (hfront : '[' ∉ front)
    (hbehind : bracket? behind = none) (hlast : behind.getLast? = some c) (hc : c ≠ '\\') :
    ((Words.mk (front ++ text ++ behind) false).Tagless ∧
      (Words.mk (front ++ text ++ behind) false).Ended) ↔ Untagged text := by
  have hended : (front ++ text ++ behind).getLast? ≠ some '\\' := by
    rw [List.getLast?_append, hlast]
    exact fun h => hc (Option.some.inj h)
  rw [Words.tagless_raw, Words.ended_raw, and_iff_left hended, untagged_framed hfront hbehind]

theorem fixed_clean {t : Text} (hbare : bracket? t = none) (hlast : t.getLast? ≠ some '\\') :
    (Words.mk t false).Tagless ∧ (Words.mk t false).Ended :=
  ⟨Words.tagless_raw.mpr (untagged_of_bare hbare), Words.ended_raw.mpr hlast⟩

theorem replicate_suffix_append_iff {front t : Text} {m : Nat}
    (hfront : front.getLast? ≠ some '\\') :
    List.replicate m '\\' <:+ front ++ t ↔ List.replicate m '\\' <:+ t := by
  obtain ⟨u, k, hu, rfl⟩ := exists_end t
  rw [← List.append_assoc, replicate_suffix_iff (getLast?_append_ne hfront hu),
    replicate_suffix_iff hu]

theorem clean_iff (n : Notice) : n.message.Clean ↔ n.Safe := by
  have hnil : Untagged [] := untagged_of_bare rfl
  have hend : (Message.tail ⟨[], false⟩).Clean := Words.tagless_raw.mpr hnil
  have hescaped (t : Text) : (Message.tail ⟨t, true⟩).Clean := .inl rfl
  cases n with
  | unsupported language =>
    exact (and_iff_right hnil).trans ((and_iff_left hend).trans
      (clean_framed (by decide) rfl rfl (by decide)))
  | unknown language =>
    exact (and_iff_right hnil).trans ((and_iff_left hend).trans
      (clean_framed (by decide) rfl rfl (by decide)))
  | unwritten path why =>
    have hpath : ((Words.mk ("✗ Failed to write to " ++ path ++ ":") false).Tagless ∧
        (Words.mk ("✗ Failed to write to " ++ path ++ ":") false).Ended) ↔ Untagged path :=
      clean_framed (by decide) rfl rfl (by decide)
    constructor
    · exact fun h => hpath.mp h.2.1
    · intro h
      have hbehind : Untagged (" " ++ systemComplaint path why) :=
        untagged_append_left (by decide) (untagged_systemComplaint h why)
      exact ⟨hnil, hpath.mpr h, Words.tagless_raw.mpr hbehind⟩
  | saved path language =>
    have hmark := fixed_clean (t := "✓") (by decide) (by decide)
    refine (and_iff_right hnil).trans ((and_iff_right hmark).trans ?_)
    refine (and_congr (untagged_framed (by decide) rfl) (and_iff_left hend)).trans ?_
    rw [Words.tagless_raw, Words.ended_raw]
    exact and_comm
  | complaint t =>
    exact iff_of_true ⟨hnil, fixed_clean (by decide) (by decide), hescaped _⟩ trivial
  | failed failure =>
    refine (and_iff_right hnil).trans ((and_iff_left hend).trans ?_)
    refine (and_iff_right (.inl rfl)).trans (not_congr ?_)
    exact replicate_suffix_append_iff (by decide)
  | warned warning =>
    have hlead : Untagged "  " := untagged_of_bare (by decide)
    exact iff_of_true ⟨hlead, fixed_clean (by decide) (by decide), hescaped _⟩ trivial

/-- What is shown of a notice: its plain text. -/
def shown (n : Notice) : Text := still n.message.meant

/-- For every notice and all texts in it: the notice is printed, and printed as its plain text
with all texts as they are given, if and only if the texts that are not escaped have no tags and
no backslashes reach the tag behind a text. If nothing in it names an emoji, moves the cursor or
hides a backslash, then its plain text is the notice word for word. -/
theorem printed_iff_safe (n : Notice) :
    (Prints (Work.say n.line) n.shown ↔ n.Safe) ∧
      (Inert n.sentence → n.shown = n.sentence) ∧ ∀ t ∈ n.texts, t <:+: n.sentence := by
  refine ⟨?_, fun h => ?_, ?_⟩
  · rw [prints_say_iff, line_eq, shown, Message.display_markup_iff, clean_iff]
  · rw [sentence_eq] at h ⊢
    exact Message.still_meant_of_inert h
  · exact n.texts_infix

theorem escaped_and_saved_shown :
    Prints (Work.say (complaintLine "[/x]")) "✗ Error: [/x]" ∧
      Prints (Work.say (savedLine "out.rs" "rust")) "✓ Generated rust code saved to out.rs" := by
  have hinert {t : Text} (h : t.count ':' ≤ 1 ∧ '\\' ∉ t ∧ t.all (!movesCursor ·) = true) :
      Inert t :=
    ⟨Emoji.free_of_count h.1, fun hback => h.2.1 (hback.subset List.mem_cons_self),
      fun c hc => by simpa using List.all_eq_true.mp h.2.2 c hc⟩
  constructor
  · obtain ⟨hsafe, hshown, -⟩ := printed_iff_safe (complaint "[/x]")
    have hsentence : (complaint "[/x]").sentence = "✗ Error: [/x]" := by decide +kernel
    have hplain := hshown (hinert (by decide +kernel))
    rw [← hsentence, ← hplain]
    exact hsafe.mpr trivial
  · obtain ⟨hsafe, hshown, -⟩ := printed_iff_safe (saved "out.rs" "rust")
    have hsentence : (saved "out.rs" "rust").sentence =
        "✓ Generated rust code saved to out.rs" := by decide +kernel
    have hplain := hshown (hinert (by decide +kernel))
    rw [← hsentence, ← hplain]
    exact hsafe.mpr ⟨⟨untagged_of_bare (by decide), by decide⟩, untagged_of_bare (by decide)⟩

theorem display_closing_tag : display (unsupportedLine "[/x]") = .error .tags := by
  have hfront : Untagged "✗ Unsupported language '" := untagged_of_bare (by decide)
  have hword : IsColorWord "x" := ⟨by decide +kernel, by decide +kernel, by decide +kernel,
    by decide +kernel, by decide +kernel, by decide +kernel⟩
  have hstopped : display (Message.colored [] (by decide) .red
      ⟨"✗ Unsupported language '" ++ '[' :: '/' :: ("x" ++ ']' :: "'"), false⟩
      (.tail ⟨[], false⟩)).markup = .error .tags :=
    Message.display_of_unmatched (untagged_of_bare rfl) hfront (by decide) hword (by decide)
      (by decide) rfl (by decide)
  exact (congrArg display (line_eq (unsupported "[/x]"))).trans hstopped

theorem chosenLanguage_closing_tag {r : Request} (h : r.language = some "[/x]".toList)
    (world : World) :
    Ends (chosenLanguage .builtin r) world fun result _ => result = .error .markup := by
  have hsupported : Registry.builtin.isSupported "[/x]" = false := by decide +kernel
  rw [chosenLanguage, h]
  dsimp only
  rw [hsupported]
  refine (ends_say_of_error display_closing_tag world).bind (fun _ _ hok => nomatch hok)
    fun _ _ herror => ?_
  exact congrArg Except.error (Except.error.inj herror)

/-- A closing tag in the name of a language escapes from the command: there is no status. -/
theorem closing_tag_escapes : display (unsupportedLine "[/x]") = .error .tags ∧
    ∀ (o : Outlook) (files : Files.Tree),
      (run o files ["generate", "-l", "[/x]"]).exit = .error .markup := by
  refine ⟨display_closing_tag, fun o files => ?_⟩
  obtain ⟨r, hread, hlist, hinfo, hlanguage, hlevel, hfile⟩ : ∃ r,
      Asked.read ["generate", "-l", "[/x]"] = .ok (.generation r) ∧
        r.listLanguages = false ∧ r.languageInfo = [] ∧ r.language = some "[/x]".toList ∧
        Logging.Choice.ofLabel? r.logLevel = .label "WARNING" ∧ r.logFile = [] :=
    ⟨_, rfl, rfl, rfl, rfl, rfl, rfl⟩
  have hstopped (world : World) : Ends (generate o .builtin r) world fun result _ =>
      result = .error .markup := by
    rw [generate, hlist, hinfo]
    refine (chosenLanguage_closing_tag hlanguage world).bind (fun _ _ hok => nomatch hok)
      fun _ _ herror => ?_
    exact congrArg Except.error (Except.error.inj herror)
  have hlog (world : World) : Ends (setUpLog o r) world fun result _ => result = .ok () := by
    rw [setUpLog]
    refine ends_world ?_
    rw [hlevel, hfile]
    rfl
  have hrun (world : World) : Ends (runRequest o r) world fun result _ =>
      result = .error .markup := by
    refine (hlog world).bind (fun _ world' _ => ?_) fun _ _ herror => nomatch herror
    refine ends_tryCatch (hstopped world') (fun _ _ hok => nomatch hok) fun stop _ herror => ?_
    obtain rfl := Except.error.inj herror
    rfl
  rw [run, hread]
  exact hrun _

end Notice

end CatchAll.Command
