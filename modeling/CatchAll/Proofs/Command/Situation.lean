import CatchAll.Command.Run
import CatchAll.Proofs.DocumentedErrors
import CatchAll.Proofs.Logging
import CatchAll.Proofs.OrderIndependence
import CatchAll.Proofs.Sessions

/-!
# What a generation from the command line is about

The request, the files and the log that a run starts with say what the library would
do: load the input, resolve the configuration and generate. They say as well what the
run may tell, what may break it off, and what it leaves in the files.
-/

set_option autoImplicit false

namespace CatchAll

open scoped Text
open Schema Outcome

/-! ## Generation without a history -/

/-- A generator that was made comes from the backend of its language and a configuration. -/
theorem Registry.create_ofConfig {r : Registry} {tree : Files.Tree} {language : Text}
    {source : ConfigSource} {g : Generator}
    (hcreate : (r.create tree language source).run.1 = .ok g) :
    ∃ b config, r.backend? language = some b ∧ Generator.ofConfig b config none = .ok g := by
  have hnot : ∀ e, ¬ r.Refuses tree language source e := by
    intro e he
    have herror := (Registry.create_error_iff #[] e).mpr he
    exact nomatch hcreate.symm.trans herror
  cases hb : r.backend? language with
  | none => exact absurd (.unknownLanguage hb) (hnot _)
  | some b =>
    have hsource : ∀ kind, source ≠ .unusable kind := fun kind h => hnot _ (.unusableConfig hb h)
    have hsettled : Settled (r.create tree language source) _ :=
      Registry.create_of_backend? hb hsource
    have hmake := hsettled.eq_run
    rw [hcreate] at hmake
    obtain ⟨config, -, hg⟩ := bind_eq_ok.mp hmake
    exact ⟨b, config, rfl, mapError_eq_ok.mp hg⟩

/-- The result of a run does not depend on what was recorded before it. -/
theorem Generation.ofDocument_fresh (tree : Files.Tree) (document : Json) (language : Text)
    (source : ConfigSource) :
    (Generation.ofDocument .builtin tree document language source).run.1 =
      (Schema.load document).run.1.mapError .schema >>= fun enums =>
        (Registry.builtin.create tree language source).run.1.mapError .registry >>= fun g =>
          .ok ((Generation.runGenerator g enums).run #[]).1 := by
  obtain ⟨j, houtcome⟩ := Generation.ofDocument_outcome .builtin tree document language source
  rw [houtcome]
  cases (Schema.load document).run.1 with
  | error e => rfl
  | ok enums =>
    cases hcreate : (Registry.builtin.create tree language source).run.1 with
    | error e => rfl
    | ok g =>
      obtain ⟨b, config, hb, hg⟩ := Registry.create_ofConfig hcreate
      have hnative : b.IsNative := Registry.builtin_backend (by rw [Registry.backend, hb])
      obtain ⟨rfl, hp⟩ := Generator.ofConfig_ok hg
      have hsame := Generator.answerFrom_eq hnative hp (.run enums) ([], j) ([], #[])
      exact congrArg Except.ok (Generator.Answer.result.inj hsame)

namespace Command

/-! ## What a run is about -/

/-- A request for a language, the files there are once the log is set up, and what else a run
can reach. -/
structure Situation where
  outlook : Outlook
  files : Files.Tree
  log : Logging.Log
  request : Request
  language : Text

namespace Situation

variable (s : Situation)

def world : World := ⟨s.files, [], [], some s.log⟩

/-- The files when the input is read: the log has been told what is looked for. -/
def filesAtInput : Files.Tree :=
  s.log.keep (findFile s.files (.ofText s.request.file)).run.2.toList s.files

/-- The files when the settings are read: the enums have been loaded. -/
def filesAtSettings : Files.Tree :=
  ((ExceptT.run (loadInput s.outlook s.request >>= loadEnums)).run s.world).2.files

/-- The document that the library loads. -/
def input : Except LoadError Loaded :=
  Journaled.run (if s.request.stdin then loadStream s.outlook.stdin
    else loadDocument s.filesAtInput s.outlook.transport s.request.file s.request.url) |>.1

/-- The configuration that the library resolves. -/
def settings : Except SetupError Config :=
  (Config.resolve s.filesAtSettings (Registry.builtin.resolve s.language)
    (overridesOf s.request) s.request.config).run.1

/-- The result that the library generates. -/
def generated (l : Loaded) (config : Config) : Except GenerationError Generator.Result :=
  (Generation.ofDocument .builtin s.filesAtSettings (.obj l.document) s.language
    (.ready config)).run.1

/-- Where the output goes. -/
def place : Except Outside (List Text) := s.files.target (Files.Path.ofText s.request.output).key

/-- The library generates code, and there is a place for it. -/
structure Succeeds (code : Text) : Prop where
  supported : Registry.builtin.isSupported s.language = true
  generated : ∃ l config warnings m, s.input = .ok l ∧ s.settings = .ok config ∧
    s.generated l config = .ok (.success code warnings m)
  place : s.request.output ≠ [] → ∃ place, s.place = .ok place

/-- The enums of the input; the errors are as the command takes them. -/
def enums : Except Stop (List Definition) :=
  s.input.mapError stopOfLoad >>= fun l =>
    (Schema.load (.obj l.document)).run.1.mapError (stopOfSchema l.source)

/-- What the library comes to, with each of its errors as the command takes it. -/
def decided : Except Stop Generator.Result :=
  s.enums >>= fun enums =>
    s.settings.mapError stopOfSetup >>= fun config =>
      (Registry.builtin.create s.filesAtSettings s.language (.ready config)).run.1.mapError
          stopOfRegistry >>= fun g =>
        .ok ((Generation.runGenerator g enums).run #[]).1

theorem decided_ok {result : Generator.Result} : s.decided = .ok result ↔
    ∃ l config, s.input = .ok l ∧ s.settings = .ok config ∧ s.generated l config = .ok result := by
  constructor
  · intro h
    obtain ⟨enums, henums, h⟩ := bind_eq_ok.mp h
    obtain ⟨l, hl, henums⟩ := bind_eq_ok.mp henums
    obtain ⟨config, hconfig, h⟩ := bind_eq_ok.mp h
    obtain ⟨g, hg, hresult⟩ := bind_eq_ok.mp h
    refine ⟨l, config, mapError_eq_ok.mp hl, mapError_eq_ok.mp hconfig, ?_⟩
    rw [generated, Generation.ofDocument_fresh]
    exact bind_eq_ok.mpr ⟨enums, mapError_eq_ok.mpr (mapError_eq_ok.mp henums),
      bind_eq_ok.mpr ⟨g, mapError_eq_ok.mpr (mapError_eq_ok.mp hg),
        congrArg Except.ok (Except.ok.inj hresult)⟩⟩
  · rintro ⟨l, config, hl, hconfig, h⟩
    rw [generated, Generation.ofDocument_fresh] at h
    obtain ⟨enums, henums, h⟩ := bind_eq_ok.mp h
    obtain ⟨g, hg, hresult⟩ := bind_eq_ok.mp h
    have hdone : s.enums = .ok enums := bind_eq_ok.mpr
      ⟨l, mapError_eq_ok.mpr hl, mapError_eq_ok.mpr (mapError_eq_ok.mp henums)⟩
    exact bind_eq_ok.mpr ⟨enums, hdone, bind_eq_ok.mpr ⟨config, mapError_eq_ok.mpr hconfig,
      bind_eq_ok.mpr ⟨g, mapError_eq_ok.mpr (mapError_eq_ok.mp hg),
        congrArg Except.ok (Except.ok.inj hresult)⟩⟩⟩

/-- The messages of a run. -/
inductive Says : Console.Block → Prop
  | unsupported (h : Registry.builtin.isSupported s.language = false) :
      Says (.line (unsupportedLine s.language))
  | supported (h : Registry.builtin.isSupported s.language = false) :
      Says (.line (supportedLine .builtin))
  | complaint {t : Text} (hsupported : Registry.builtin.isSupported s.language = true)
      (h : s.decided = .error (.complaint t)) : Says (.line (complaintLine t))
  | failure {failure : Target.Failure} (h : s.decided = .ok (.failed failure)) :
      Says (.line (failureLine failure))
  | unwritten {code : Text} {warnings : List Text} {m : Generator.Metadata} {why : Outside}
      (h : s.decided = .ok (.success code warnings m)) (houtput : s.request.output ≠ [])
      (hplace : s.place = .error why) :
      Says (.line (unwrittenLine (Files.Path.ofText s.request.output).text why))
  | saved {code : Text} {warnings : List Text} {m : Generator.Metadata}
      (h : s.decided = .ok (.success code warnings m)) (houtput : s.request.output ≠ []) :
      Says (.line (savedLine (Files.Path.ofText s.request.output).text m.language))
  | metadata {code : Text} {warnings : List Text} {m : Generator.Metadata}
      (h : s.decided = .ok (.success code warnings m)) (hverbose : s.request.verbose = true) :
      Says (metadataGrid m)
  | warnings {code : Text} {warnings : List Text} {m : Generator.Metadata}
      (h : s.decided = .ok (.success code warnings m)) (hne : warnings ≠ []) :
      Says (.line warningsLine)
  | warning {code w : Text} {warnings : List Text} {m : Generator.Metadata}
      (h : s.decided = .ok (.success code warnings m)) (hw : w ∈ warnings) :
      Says (.line (warningLine w))

/-- What may break a run off: a failure that is no documented error of a loader or of the
configuration, a name for the output that is no text for the system, and a message that
cannot be shown. -/
inductive Interrupted : Stop → Prop
  | load {o : Outside} (h : s.input = .error (.outside o)) : Interrupted (.outside o)
  | settings {o : Outside} (h : s.settings = .error (.outside o)) : Interrupted (.outside o)
  | write (houtput : s.request.output ≠ []) (h : s.place = .error .badValue) :
      Interrupted (.outside .badValue)
  | message {b : Console.Block} {fault : Console.Fault} (hb : s.Says b)
      (h : b.text = .error fault) : Interrupted (Work.stopOfFault fault)

theorem Succeeds.decided {s : Situation} {code : Text} (h : s.Succeeds code) :
    ∃ warnings m, s.decided = .ok (.success code warnings m) := by
  obtain ⟨l, config, warnings, m, hgenerated⟩ := h.generated
  exact ⟨warnings, m, s.decided_ok.mpr ⟨l, config, hgenerated⟩⟩

/-- Files that are as they were, but for the file of the log. -/
def Keeps (before after : Files.Tree) : Prop :=
  ∀ steps, s.log.file ≠ some steps → after.entry? steps = before.entry? steps

theorem Keeps.trans {s : Situation} {first before after : Files.Tree} (h : s.Keeps before after)
    (hfirst : s.Keeps first before) : s.Keeps first after :=
  fun steps hlog => (h steps hlog).trans (hfirst steps hlog)

/-- The code stands where it was asked for, and only there and in the log was anything
written. -/
inductive Delivered (before : Files.Tree) (code : Text) (world : World) : Prop
  | printed (houtput : s.request.output = []) (hout : world.out = code)
      (hfiles : s.Keeps before world.files) : Delivered before code world
  | saved {place : List Text} (houtput : s.request.output ≠ []) (hplace : s.place = .ok place)
      (hout : world.out = [])
      (hfile : world.files.entry? place = some (.file (String.ofList code).toUTF8))
      (hothers : ∀ steps ≠ place, s.log.file ≠ some steps →
        world.files.entry? steps = before.entry? steps) : Delivered before code world

/-- Nothing has been written so far but records of the log. -/
structure Quiet (world : World) : Prop where
  files : ∃ records, world.files = s.log.keep records s.files
  out : world.out = []
  log : world.log = some s.log

variable {s} {world : World} (hopen : s.log.IsOpen s.files)

include hopen in
theorem Quiet.keep (h : s.Quiet world) (records : List Record) : s.Quiet (world.keep records) := by
  obtain ⟨earlier, hfiles⟩ := h.files
  rw [World.keep, h.log]
  refine ⟨⟨earlier ++ records, ?_⟩, h.out, rfl⟩
  dsimp only
  rw [hfiles, hopen.keep_keep]

theorem Quiet.said (h : s.Quiet world) (t : Text) :
    s.Quiet { world with err := world.err ++ t } :=
  ⟨h.files, h.out, h.log⟩

include hopen in
theorem Quiet.place (h : s.Quiet world) :
    world.files.target (Files.Path.ofText s.request.output).key = s.place := by
  obtain ⟨records, hfiles⟩ := h.files
  rw [hfiles]
  exact (hopen.sameShape records).target _

end Situation

end Command

end CatchAll
