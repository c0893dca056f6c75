import CatchAll.Proofs.Outcome
import CatchAll.Schema.Source

/-!
# Errors of sources

What is loaded from a file, from a web address or from a stream is a document, and
a source that has none is reported by a documented error. Some failures go past
these errors: a name that is too long, bytes that encode no text, an address that
cannot be taken apart, whole numbers with too many digits and brackets too deep
inside each other. They are listed here for each kind of source, and nothing else
goes past.
-/

set_option autoImplicit false

namespace CatchAll.Schema

open scoped Text
open Outcome

/-- The errors that a loader tells about itself, unlike a failure of what it uses. -/
def LoadError.isDocumented : LoadError → Bool
  | outside _ => false
  | _ => true

/-! ## Texts -/

/-- Why a text from a source is no document. -/
inductive TextFault (source : Text) (malformed : LoadError) (t : Text) : LoadError → Prop
  | malformed (hread : Json.read t = .error .malformed) : TextFault source malformed t malformed
  | notAnObject {v : Json} (hread : Json.read t = .ok v) (hobject : ∀ fields, v ≠ .obj fields) :
      TextFault source malformed t (.notAnObject source)

/-- What goes past the error for malformed texts. -/
inductive TextEscape (t : Text) : Outside → Prop
  | numberTooLong (hread : Json.read t = .error .numberTooLong) : TextEscape t .badValue
  | tooDeep (hread : Json.read t = .error .tooDeep) : TextEscape t .tooDeep

theorem text_cases (source : Text) (malformed : LoadError) (t : Text) :
    (∃ fields, Json.read t = .ok (.obj fields)) ∨ (∃ e, TextFault source malformed t e) ∨
      ∃ o, TextEscape t o := by
  cases hread : Json.read t with
  | error failure =>
    cases failure with
    | malformed => exact .inr (.inl ⟨_, .malformed hread⟩)
    | numberTooLong => exact .inr (.inr ⟨_, .numberTooLong hread⟩)
    | tooDeep => exact .inr (.inr ⟨_, .tooDeep hread⟩)
  | ok v =>
    cases v with
    | obj fields => exact .inl ⟨fields, rfl⟩
    | _ => exact .inr (.inl ⟨_, .notAnObject hread fun _ h => nomatch h⟩)

/-- The value in a text, with the errors for a malformed text and for a number that is too
long. -/
def valueOf (malformed tooLong : LoadError) (t : Text) : Except LoadError Json :=
  match Json.read t with
  | .ok v => .ok v
  | .error .malformed => .error malformed
  | .error .numberTooLong => .error tooLong
  | .error .tooDeep => .error (.outside .tooDeep)

/-- The object that a value from a source has to be. -/
def objectOf (source : Text) : Json → Except LoadError Fields
  | .obj fields => .ok fields
  | _ => .error (.notAnObject source)

/-- The document in a text; its source is told under one name and described under another. -/
def documentIn (source told : Text) (malformed tooLong : LoadError) (t : Text) :
    Except LoadError Loaded :=
  valueOf malformed tooLong t >>= fun v => objectOf told v >>= fun fields => .ok ⟨source, fields⟩

section

variable {source told t : Text} {malformed tooLong : LoadError}

theorem documentIn_object {fields : Fields} (hread : Json.read t = .ok (.obj fields)) :
    documentIn source told malformed tooLong t = .ok ⟨source, fields⟩ := by
  rw [documentIn, valueOf, hread]
  rfl

/-- A text without a value holds no document. -/
theorem documentIn_of_valueOf {e : LoadError} (h : valueOf malformed tooLong t = .error e) :
    documentIn source told malformed tooLong t = .error e := by
  rw [documentIn, h]
  rfl

theorem documentIn_fault {e : LoadError} (h : TextFault told malformed t e) :
    documentIn source told malformed tooLong t = .error e := by
  cases h with
  | malformed hread => exact documentIn_of_valueOf (by rw [valueOf, hread])
  | @notAnObject v hread hobject =>
    rw [documentIn, valueOf, hread]
    cases v with
    | obj fields => exact absurd rfl (hobject fields)
    | _ => rfl

theorem documentIn_escape {o : Outside} (h : TextEscape t o) :
    documentIn source told malformed (.outside .badValue) t = .error (.outside o) := by
  cases h with
  | numberTooLong hread => exact documentIn_of_valueOf (by rw [valueOf, hread])
  | tooDeep hread => exact documentIn_of_valueOf (by rw [valueOf, hread])

theorem settled_readJson {report : Loading Json} (h : Settled report (.error malformed)) (t : Text) :
    Settled (readJson t report) (valueOf malformed (.outside .badValue) t) := by
  rw [readJson, valueOf]
  cases Json.read t with
  | ok v => exact settled_pure v
  | error failure =>
    cases failure with
    | malformed => exact h
    | _ => exact fun _ => rfl

theorem settled_requireObject (source : Text) (v : Json) :
    Settled (requireObject source v) (objectOf source v) := by
  cases v <;> exact fun _ => rfl

theorem settled_giveUp {α : Type} (headline : Text) (why : Reason) (e : LoadError) :
    Settled (giveUp headline why e : Loading α) (.error e) := fun _ => rfl

end

theorem settled_loadStream (t : Text) : Settled (loadStream t)
    (documentIn "<stdin>" "stdin" .malformedStream (.outside .badValue) t) :=
  (settled_readJson (settled_giveUp _ _ _) t).bind fun v _ =>
    (settled_requireObject "stdin" v).bind fun _ _ => settled_pure _

/-! ## Files -/

section

variable {tree : Files.Tree} {path : Files.Path} {t : Text}

/-- What stands at a path is a file whose bytes encode the text. -/
def Holds (tree : Files.Tree) (path : Files.Path) (t : Text) : Prop :=
  ∃ bytes, tree.probe path = .file bytes ∧ Files.decode bytes = .ok t

/-- Why a file gives no document. -/
inductive FileFault (tree : Files.Tree) (path : Files.Path) : LoadError → Prop
  | missing {why : Outside} (hprobe : tree.probe path = .missing why) (hname : why ≠ .nameTooLong) :
      FileFault tree path (.fileNotFound path.text)
  | directory (hprobe : tree.probe path = .directory) :
      FileFault tree path (.unreadableFile path.text .isDirectory)
  | text {t : Text} {e : LoadError} (ht : Holds tree path t)
      (hfault : TextFault path.text (.malformedFile path.text) t e) : FileFault tree path e

/-- What goes past the errors for files. -/
inductive FileEscape (tree : Files.Tree) (path : Files.Path) : Outside → Prop
  | nameTooLong (hprobe : tree.probe path = .missing .nameTooLong) :
      FileEscape tree path .nameTooLong
  | undecodable {bytes : ByteArray} (hprobe : tree.probe path = .file bytes)
      (hbytes : ∀ t, Files.decode bytes ≠ .ok t) : FileEscape tree path .undecodable
  | text {t : Text} {o : Outside} (ht : Holds tree path t) (hescape : TextEscape t o) :
      FileEscape tree path o

theorem file_cases (tree : Files.Tree) (path : Files.Path) :
    (∃ t fields, Holds tree path t ∧ Json.read t = .ok (.obj fields)) ∨
      (∃ e, FileFault tree path e) ∨ ∃ o, FileEscape tree path o := by
  cases hprobe : tree.probe path with
  | missing why =>
    by_cases hname : why = .nameTooLong
    · exact .inr (.inr ⟨_, .nameTooLong (hname ▸ hprobe)⟩)
    · exact .inr (.inl ⟨_, .missing hprobe hname⟩)
  | directory => exact .inr (.inl ⟨_, .directory hprobe⟩)
  | file bytes =>
    by_cases hbytes : ∃ t, Files.decode bytes = .ok t
    · obtain ⟨t, ht⟩ := hbytes
      have hholds : Holds tree path t := ⟨bytes, hprobe, ht⟩
      obtain ⟨fields, hread⟩ | ⟨e, hfault⟩ | ⟨o, hescape⟩ :=
        text_cases path.text (.malformedFile path.text) t
      · exact .inl ⟨t, fields, hholds, hread⟩
      · exact .inr (.inl ⟨e, .text hholds hfault⟩)
      · exact .inr (.inr ⟨o, .text hholds hescape⟩)
    · exact .inr (.inr ⟨_, .undecodable hprobe (not_exists.mp hbytes)⟩)

theorem decode_of_ne {bytes : ByteArray} (h : ∀ t, Files.decode bytes ≠ .ok t) :
    Files.decode bytes = .error .undecodable := by
  rw [Files.decode] at h ⊢
  split
  · rename_i s hs
    rw [hs] at h
    exact absurd rfl (h s.toList)
  · rfl

theorem settled_findFile (h : ∀ why, tree.probe path ≠ .missing why) :
    Settled (findFile tree path) (.ok ()) := by
  rw [findFile]
  cases hprobe : tree.probe path with
  | missing why => exact absurd hprobe (h why)
  | _ => cases path.isJson <;> exact fun _ => rfl

theorem settled_findFile_missing {why : Outside} (hprobe : tree.probe path = .missing why)
    (hname : why ≠ .nameTooLong) :
    Settled (findFile tree path) (.error (.fileNotFound path.text)) := by
  rw [findFile, hprobe]
  cases why with
  | nameTooLong => exact absurd rfl hname
  | _ => exact fun _ => rfl

theorem settled_findFile_tooLong (hprobe : tree.probe path = .missing .nameTooLong) :
    Settled (findFile tree path) (.error (.outside .nameTooLong)) := by
  rw [findFile, hprobe]
  exact fun _ => rfl

theorem Holds.found (ht : Holds tree path t) (why : Outside) : tree.probe path ≠ .missing why := by
  obtain ⟨bytes, hprobe, -⟩ := ht
  rw [hprobe]
  exact nofun

theorem settled_loadFound (ht : Holds tree path t) : Settled (loadFound tree path)
    (documentIn path.text path.text (.malformedFile path.text) (.outside .badValue) t) := by
  obtain ⟨bytes, hprobe, hbytes⟩ := ht
  simp only [loadFound, readFile, hprobe, hbytes]
  exact (settled_readJson (settled_giveUp _ _ _) t).bind fun v _ =>
    (settled_note _ _ _).bind fun _ _ => (settled_requireObject _ v).bind fun _ _ => settled_pure _

theorem settled_loadFile_found {file : Text} {outcome : Except LoadError Loaded}
    (h : ∀ why, tree.probe (.ofText file) ≠ .missing why)
    (hfound : Settled (loadFound tree (.ofText file)) outcome) :
    Settled (loadFile tree file) outcome :=
  (settled_findFile h).after hfound

theorem settled_loadFile_missing {file : Text} {e : LoadError}
    (h : Settled (findFile tree (.ofText file)) (.error e)) :
    Settled (loadFile tree file) (.error e) :=
  h.failed _

theorem settled_loadFile_fault {file : Text} {e : LoadError}
    (h : FileFault tree (.ofText file) e) : Settled (loadFile tree file) (.error e) := by
  cases h with
  | missing hprobe hname => exact settled_loadFile_missing (settled_findFile_missing hprobe hname)
  | directory hprobe =>
    refine settled_loadFile_found (fun why hmissing => nomatch hprobe.symm.trans hmissing) ?_
    simp only [loadFound, readFile, hprobe]
    exact fun _ => rfl
  | text ht hfault =>
    refine settled_loadFile_found ht.found ?_
    rw [← documentIn_fault hfault]
    exact settled_loadFound ht

theorem settled_loadFile_escape {file : Text} {o : Outside}
    (h : FileEscape tree (.ofText file) o) :
    Settled (loadFile tree file) (.error (.outside o)) := by
  cases h with
  | nameTooLong hprobe => exact settled_loadFile_missing (settled_findFile_tooLong hprobe)
  | undecodable hprobe hbytes =>
    refine settled_loadFile_found (fun why hmissing => nomatch hprobe.symm.trans hmissing) ?_
    simp only [loadFound, readFile, hprobe, decode_of_ne hbytes]
    exact fun _ => rfl
  | text ht hescape =>
    refine settled_loadFile_found ht.found ?_
    rw [← documentIn_escape hescape]
    exact settled_loadFound ht

end

/-! ## Web addresses -/

section

variable {transport : Web.Transport} {url : Text} {reply : Web.Reply}

/-- An address that can be asked for, and what comes of it. A reply with the status of an
error counts as a failure. -/
structure Answered (transport : Web.Transport) (url : Text)
    (answer : Except Web.TransportFailure Web.Reply) : Prop where
  address : ∃ parts, Web.Url.read url = .ok parts ∧ parts.isComplete = true
  answer : transport url >>= Web.checked = answer

/-- How a failed request is reported. -/
inductive RequestFault (url : Text) : Web.TransportFailure → LoadError → Prop
  | timeout : RequestFault url .timeout (.timeout url)
  | connection (text : Text) : RequestFault url (.connection text) (.connection url)
  | status (s : Web.Status) : RequestFault url (.status s) (.status url s)
  | badRequest (text : Text) : RequestFault url (.badRequest text) (.badResponse url (.foreign text))
  | other (text : Text) : RequestFault url (.other text) (.request url text)

/-- Why an address gives no document. -/
inductive UrlFault (transport : Web.Transport) (url : Text) : LoadError → Prop
  | incomplete {parts : Web.Url} (hread : Web.Url.read url = .ok parts)
      (hparts : parts.isComplete = false) : UrlFault transport url (.incompleteUrl url)
  | request {failure : Web.TransportFailure} {e : LoadError}
      (hanswer : Answered transport url (.error failure)) (hfault : RequestFault url failure e) :
      UrlFault transport url e
  | body {reply : Web.Reply} {e : LoadError} (hanswer : Answered transport url (.ok reply))
      (hfault : TextFault url (.badResponse url (.outside .malformedJson)) reply.body e) :
      UrlFault transport url e
  | numberTooLong {reply : Web.Reply} (hanswer : Answered transport url (.ok reply))
      (hread : Json.read reply.body = .error .numberTooLong) :
      UrlFault transport url (.badResponse url (.outside .badValue))

/-- What goes past the errors for addresses. -/
inductive UrlEscape (transport : Web.Transport) (url : Text) : Outside → Prop
  | address {o : Outside} (hread : Web.Url.read url = .error o) : UrlEscape transport url o
  | unexpected {o : Outside} (hanswer : Answered transport url (.error (.unexpected o))) :
      UrlEscape transport url o
  | tooDeep {reply : Web.Reply} (hanswer : Answered transport url (.ok reply))
      (hread : Json.read reply.body = .error .tooDeep) : UrlEscape transport url .tooDeep

theorem requestFault_cases (url : Text) (failure : Web.TransportFailure) :
    (∃ e, RequestFault url failure e) ∨ ∃ o, failure = .unexpected o := by
  cases failure with
  | timeout => exact .inl ⟨_, .timeout⟩
  | connection text => exact .inl ⟨_, .connection text⟩
  | status s => exact .inl ⟨_, .status s⟩
  | badRequest text => exact .inl ⟨_, .badRequest text⟩
  | other text => exact .inl ⟨_, .other text⟩
  | unexpected o => exact .inr ⟨o, rfl⟩

theorem url_cases (transport : Web.Transport) (url : Text) :
    (∃ reply fields, Answered transport url (.ok reply) ∧
        Json.read reply.body = .ok (.obj fields)) ∨
      (∃ e, UrlFault transport url e) ∨ ∃ o, UrlEscape transport url o := by
  cases hread : Web.Url.read url with
  | error o => exact .inr (.inr ⟨o, .address hread⟩)
  | ok parts =>
    cases hparts : parts.isComplete with
    | false => exact .inr (.inl ⟨_, .incomplete hread hparts⟩)
    | true =>
      cases hanswer : transport url >>= Web.checked with
      | error failure =>
        have hanswered : Answered transport url (.error failure) := ⟨⟨parts, hread, hparts⟩, hanswer⟩
        obtain ⟨e, hfault⟩ | ⟨o, rfl⟩ := requestFault_cases url failure
        · exact .inr (.inl ⟨e, .request hanswered hfault⟩)
        · exact .inr (.inr ⟨o, .unexpected hanswered⟩)
      | ok reply =>
        have hanswered : Answered transport url (.ok reply) := ⟨⟨parts, hread, hparts⟩, hanswer⟩
        obtain ⟨fields, hbody⟩ | ⟨e, hfault⟩ | ⟨o, hescape⟩ :=
          text_cases url (.badResponse url (.outside .malformedJson)) reply.body
        · exact .inl ⟨reply, fields, hanswered, hbody⟩
        · exact .inr (.inl ⟨e, .body hanswered hfault⟩)
        · cases hescape with
          | numberTooLong hbody => exact .inr (.inl ⟨_, .numberTooLong hanswered hbody⟩)
          | tooDeep hbody => exact .inr (.inr ⟨_, .tooDeep hanswered hbody⟩)

theorem settled_readReply (url : Text) (reply : Web.Reply) : Settled (readReply url reply)
    (valueOf (.badResponse url (.outside .malformedJson)) (.badResponse url (.outside .badValue))
      reply.body) := by
  rw [readReply, valueOf]
  split <;> cases Json.read reply.body with
    | ok v => exact fun _ => rfl
    | error failure => cases failure <;> exact fun _ => rfl

theorem settled_failRequest {failure : Web.TransportFailure} {e : LoadError}
    (h : RequestFault url failure e) : Settled (failRequest url failure) (.error e) := by
  cases h <;> exact fun _ => rfl

theorem settled_loadUrl {answer : Except Web.TransportFailure Web.Reply}
    {outcome : Except LoadError Json} (hanswer : Answered transport url answer)
    (hfetch : Settled (fetch transport url) outcome) : Settled (loadUrl transport url)
      (outcome >>= fun v => objectOf url v >>= fun fields => .ok ⟨url, fields⟩) := by
  obtain ⟨parts, hread, hparts⟩ := hanswer.address
  simp only [loadUrl, hread, hparts, if_true]
  exact (settled_note _ _ _).bind fun _ _ => hfetch.bind fun v _ =>
    (settled_note _ _ _).bind fun _ _ => (settled_requireObject url v).bind fun _ _ => settled_pure _

theorem settled_loadUrl_failed {failure : Web.TransportFailure} {e : LoadError}
    (hanswer : Answered transport url (.error failure))
    (h : Settled (failRequest url failure) (.error e)) :
    Settled (loadUrl transport url) (.error e) := by
  have hfetch : Settled (fetch transport url) (.error e) := by
    rw [fetch, hanswer.answer]
    exact h
  exact settled_loadUrl hanswer hfetch

theorem settled_loadUrl_replied (hanswer : Answered transport url (.ok reply)) :
    Settled (loadUrl transport url)
      (documentIn url url (.badResponse url (.outside .malformedJson))
        (.badResponse url (.outside .badValue)) reply.body) := by
  refine settled_loadUrl hanswer ?_
  rw [fetch, hanswer.answer]
  exact settled_readReply url reply

theorem settled_loadUrl_fault {e : LoadError} (h : UrlFault transport url e) :
    Settled (loadUrl transport url) (.error e) := by
  cases h with
  | incomplete hread hparts =>
    simp only [loadUrl, hread, hparts]
    exact fun _ => rfl
  | request hanswer hfault => exact settled_loadUrl_failed hanswer (settled_failRequest hfault)
  | body hanswer hfault =>
    rw [← documentIn_fault hfault]
    exact settled_loadUrl_replied hanswer
  | numberTooLong hanswer hread =>
    have hreplied := settled_loadUrl_replied hanswer
    rwa [documentIn_of_valueOf (by rw [valueOf, hread])] at hreplied

theorem settled_loadUrl_escape {o : Outside} (h : UrlEscape transport url o) :
    Settled (loadUrl transport url) (.error (.outside o)) := by
  cases h with
  | address hread =>
    simp only [loadUrl, hread]
    exact fun _ => rfl
  | unexpected hanswer => exact settled_loadUrl_failed hanswer fun _ => rfl
  | tooDeep hanswer hread =>
    have hreplied := settled_loadUrl_replied hanswer
    rwa [documentIn_of_valueOf (by rw [valueOf, hread])] at hreplied

end

/-! ## All sources -/

/-- What loading comes to: it gives what the source has, reports a fault of the source by a
documented error, or lets one of the listed failures escape. -/
structure Loads (work : Loading Loaded) (has : Loaded → Prop) (fault : LoadError → Prop)
    (escape : Outside → Prop) : Prop where
  gives : ∀ l, work.run.1 = .ok l ↔ has l
  reports : ∀ e, e.isDocumented = true → (work.run.1 = .error e ↔ fault e)
  escapes : ∀ o, work.run.1 = .error (.outside o) ↔ escape o

theorem TextFault.isDocumented {source t : Text} {malformed e : LoadError}
    (h : TextFault source malformed t e) (hmalformed : malformed.isDocumented = true) :
    e.isDocumented = true := by
  cases h with
  | malformed => exact hmalformed
  | notAnObject => rfl

theorem FileFault.isDocumented {tree : Files.Tree} {path : Files.Path} {e : LoadError}
    (h : FileFault tree path e) : e.isDocumented = true := by
  cases h with
  | missing => rfl
  | directory => rfl
  | text _ hfault => exact hfault.isDocumented rfl

theorem UrlFault.isDocumented {transport : Web.Transport} {url : Text} {e : LoadError}
    (h : UrlFault transport url e) : e.isDocumented = true := by
  cases h with
  | incomplete => rfl
  | request _ hfault => cases hfault <;> rfl
  | body _ hfault => exact hfault.isDocumented rfl
  | numberTooLong => rfl

/-- One of the three has to happen, so none happens without its reason. -/
theorem Loads.of_cases {work : Loading Loaded} {has : Loaded → Prop} {fault : LoadError → Prop}
    {escape : Outside → Prop} (hhas : ∀ l, has l → Settled work (.ok l))
    (hfault : ∀ e, fault e → e.isDocumented = true ∧ Settled work (.error e))
    (hescape : ∀ o, escape o → Settled work (.error (.outside o)))
    (hcases : (∃ l, has l) ∨ (∃ e, fault e) ∨ ∃ o, escape o) : Loads work has fault escape := by
  have hreason : match work.run.1 with
      | .ok l => has l
      | .error (.outside o) => escape o
      | .error e => fault e := by
    obtain ⟨l, hl⟩ | ⟨e, he⟩ | ⟨o, ho⟩ := hcases
    · rw [← (hhas l hl).eq_run]
      exact hl
    · obtain ⟨hdocumented, hsettled⟩ := hfault e he
      rw [← hsettled.eq_run]
      cases e with
      | outside o => cases hdocumented
      | _ => exact he
    · rw [← (hescape o ho).eq_run]
      exact ho
  refine ⟨fun l => ⟨fun h => ?_, fun h => (hhas l h).eq_run.symm⟩,
    fun e hdocumented => ⟨fun h => ?_, fun h => (hfault e h).2.eq_run.symm⟩,
    fun o => ⟨fun h => ?_, fun h => (hescape o h).eq_run.symm⟩⟩
  · rw [h] at hreason
    exact hreason
  · rw [h] at hreason
    cases e with
    | outside o => cases hdocumented
    | _ => exact hreason
  · rw [h] at hreason
    exact hreason

theorem loads_file (tree : Files.Tree) (file : Text) :
    Loads (loadFile tree file)
      (fun l => l.source = (Files.Path.ofText file).text ∧
        ∃ t, Holds tree (.ofText file) t ∧ Json.read t = .ok (.obj l.document))
      (FileFault tree (.ofText file)) (FileEscape tree (.ofText file)) := by
  refine Loads.of_cases ?_ (fun e he => ⟨he.isDocumented, settled_loadFile_fault he⟩)
    (fun o => settled_loadFile_escape) ?_
  · rintro ⟨source, document⟩ ⟨rfl, t, ht, hread⟩
    have hfound := settled_loadFound ht
    rw [documentIn_object hread] at hfound
    exact settled_loadFile_found ht.found hfound
  · obtain ⟨t, fields, ht, hread⟩ | hrest := file_cases tree (.ofText file)
    · exact .inl ⟨⟨_, fields⟩, rfl, t, ht, hread⟩
    · exact .inr hrest

theorem loads_url (transport : Web.Transport) (url : Text) :
    Loads (loadUrl transport url)
      (fun l => l.source = url ∧
        ∃ reply, Answered transport url (.ok reply) ∧ Json.read reply.body = .ok (.obj l.document))
      (UrlFault transport url) (UrlEscape transport url) := by
  refine Loads.of_cases ?_ (fun e he => ⟨he.isDocumented, settled_loadUrl_fault he⟩)
    (fun o => settled_loadUrl_escape) ?_
  · rintro ⟨source, document⟩ ⟨rfl, reply, hanswer, hread⟩
    have hreplied := settled_loadUrl_replied hanswer
    rw [documentIn_object hread] at hreplied
    exact hreplied
  · obtain ⟨reply, fields, hanswer, hread⟩ | hrest := url_cases transport url
    · exact .inl ⟨⟨_, fields⟩, rfl, reply, hanswer, hread⟩
    · exact .inr hrest

theorem loads_stream (t : Text) :
    Loads (loadStream t)
      (fun l => l.source = "<stdin>".toList ∧ Json.read t = .ok (.obj l.document))
      (TextFault "stdin" .malformedStream t) (TextEscape t) := by
  have hstream := settled_loadStream t
  refine Loads.of_cases ?_ (fun e he => ⟨he.isDocumented rfl, ?_⟩) (fun o ho => ?_) ?_
  · rintro ⟨source, document⟩ ⟨rfl, hread⟩
    rwa [documentIn_object hread] at hstream
  · rwa [documentIn_fault he] at hstream
  · rwa [documentIn_escape ho] at hstream
  · obtain ⟨fields, hread⟩ | hrest := text_cases "stdin" .malformedStream t
    · exact .inl ⟨⟨_, fields⟩, rfl, hread⟩
    · exact .inr hrest

/-- Each loader gives the object in its source under the name of the source, or reports a
documented error, of which only the one for files that are not there is no loading error.
What escapes instead is listed for each loader. -/
theorem sources_load_or_report (tree : Files.Tree) (file : Text) (transport : Web.Transport)
    (url t : Text) :
    Loads (loadFile tree file)
      (fun l => l.source = (Files.Path.ofText file).text ∧
        ∃ t, Holds tree (.ofText file) t ∧ Json.read t = .ok (.obj l.document))
      (FileFault tree (.ofText file)) (FileEscape tree (.ofText file)) ∧
    Loads (loadUrl transport url)
      (fun l => l.source = url ∧
        ∃ reply, Answered transport url (.ok reply) ∧ Json.read reply.body = .ok (.obj l.document))
      (UrlFault transport url) (UrlEscape transport url) ∧
    Loads (loadStream t)
      (fun l => l.source = "<stdin>".toList ∧ Json.read t = .ok (.obj l.document))
      (TextFault "stdin" .malformedStream t) (TextEscape t) :=
  ⟨loads_file tree file, loads_url transport url, loads_stream t⟩

/-- Bytes that encode no text, and an address with a bracket left open: neither is reported. -/
theorem undecodable_file_escapes :
    (loadFile [(["schema.json"], .file ⟨#[0xFF]⟩)] "schema.json").run.1 =
        .error (.outside .undecodable) ∧
      (loadUrl Web.offline "http://[").run.1 = .error (.outside .badValue) ∧
      LoadError.isDocumented (.outside .undecodable) = false ∧
      LoadError.isDocumented (.outside .badValue) = false :=
  ⟨rfl, rfl, rfl, rfl⟩

end CatchAll.Schema
