import CatchAll.Files.Tree
import CatchAll.Json.Reader
import CatchAll.Web.Transport
import CatchAll.Web.Url

/-!
# Where schema documents come from

A schema document is the object in a file, behind a web address or on a stream.
Loading gives the document with a description of its source. Text that is no
document, and a document that is no object, are reported with the source.
-/

set_option autoImplicit false

namespace CatchAll.Schema

open scoped Text

structure Loaded where
  source : Text
  document : Fields

inductive LoadError where
  | fileNotFound (path : Text)
  | malformedFile (path : Text)
  | unreadableFile (path : Text) (why : Outside)
  | incompleteUrl (url : Text)
  | timeout (url : Text)
  | connection (url : Text)
  | status (url : Text) (s : Web.Status)
  | badResponse (url : Text) (why : Reason)
  | request (url text : Text)
  | malformedStream
  | notAnObject (source : Text)
  | nothingGiven
  | bothGiven
  | outside (o : Outside)

namespace LoadError

def withDetail (headline : Text) : Reason → Text
  | .foreign t => headline ++ ": " ++ t
  | _ => headline

def badResponseHeadline (url : Text) : Text := "Invalid JSON response from URL " ++ url

def message? : LoadError → Option Text
  | fileNotFound path => some ("File not found: " ++ path)
  | malformedFile path => some ("Invalid JSON in file " ++ path)
  | unreadableFile path _ => some ("Error reading file " ++ path)
  | incompleteUrl url => some ("Invalid URL: " ++ url)
  | timeout url => some ("Request timeout for URL: " ++ url)
  | connection url => some ("Connection error for URL: " ++ url)
  | status url s => some ("HTTP error " ++ s.text ++ " for URL: " ++ url)
  | badResponse url why => some (withDetail (badResponseHeadline url) why)
  | request url text => some ("Request error for URL " ++ url ++ ": " ++ text)
  | malformedStream => some "Invalid JSON on stdin"
  | notAnObject source => some ("Schema document from " ++ source ++ " must be a JSON object")
  | nothingGiven => some "Either file_path or url must be provided"
  | bothGiven => some "Cannot specify both file_path and url"
  | outside _ => none

/-- The message without what others say. -/
def brief? : LoadError → Option Text
  | badResponse url _ => some (badResponseHeadline url)
  | e => e.message?

/-- The outside failure behind an error. -/
def cause? : LoadError → Option Outside
  | malformedFile _ | malformedStream => some .malformedJson
  | unreadableFile _ why => some why
  | badResponse _ (.outside o) => some o
  | _ => none

end LoadError

def sourceSpeaker : Text := "openenum.utils"

abbrev Loading := Journaled LoadError

def requireObject (source : Text) : Json → Loading Fields
  | .obj fields => return fields
  | _ => throw (.notAnObject source)

/-- Reports a failure under its headline and gives up. -/
def giveUp {α : Type} (headline : Text) (why : Reason) (e : LoadError) : Loading α := do
  noteFailure .error sourceSpeaker headline why
  throw e

/-! ## Files -/

def readJson (t : Text) (malformed : Loading Json) : Loading Json :=
  match Json.read t with
  | .ok v => return v
  | .error .malformed => malformed
  | .error .numberTooLong => throw (.outside .badValue)
  | .error .tooDeep => throw (.outside .tooDeep)

/-- What a file that exists holds. -/
def readFile (path : Text) (probe : Files.Probe) : Loading Json :=
  let unreadable (why : Outside) : Loading Json :=
    giveUp ("Error reading file " ++ path) (.outside why) (.unreadableFile path why)
  match probe with
  | .missing why => unreadable why
  | .directory => unreadable .isDirectory
  | .file bytes =>
    match Files.decode bytes with
    | .error o => throw (.outside o)
    | .ok t =>
      readJson t
        (giveUp ("Invalid JSON in file " ++ path) (.outside .malformedJson) (.malformedFile path))

/-- Makes sure that there is something at a path. -/
def findFile (tree : Files.Tree) (path : Files.Path) : Loading Unit := do
  note .debug sourceSpeaker ("Attempting to load schema from file: " ++ path.text)
  match tree.probe path with
  | .missing .nameTooLong => throw (.outside .nameTooLong)
  | .missing _ =>
    note .error sourceSpeaker ("File not found: " ++ path.text)
    throw (.fileNotFound path.text)
  | _ =>
    unless path.isJson do
      note .warning sourceSpeaker ("File does not have .json extension: " ++ path.text)

/-- The document at a path where something was found. -/
def loadFound (tree : Files.Tree) (path : Files.Path) : Loading Loaded := do
  let value ← readFile path.text (tree.probe path)
  note .info sourceSpeaker ("Loaded schema from " ++ path.text)
  return ⟨path.text, ← requireObject path.text value⟩

def loadFile (tree : Files.Tree) (file : Text) : Loading Loaded := do
  let path := Files.Path.ofText file
  findFile tree path
  loadFound tree path

/-! ## Web addresses -/

def isJsonType (contentType : Text) : Bool := Text.includes "application/json" contentType

def isJsonUrl (url : Text) : Bool := (".json" : Text).isSuffixOf url

def readReply (url : Text) (r : Web.Reply) : Loading Json := do
  let contentType := Text.lower r.contentType
  unless isJsonType contentType || isJsonUrl url do
    note .warning sourceSpeaker
      ("URL " ++ url ++ " does not have JSON content type: " ++ contentType)
  let bad (o : Outside) : Loading Json :=
    giveUp (LoadError.badResponseHeadline url) (.outside o) (.badResponse url (.outside o))
  match Json.read r.body with
  | .ok v => return v
  | .error .malformed => bad .malformedJson
  | .error .numberTooLong => bad .badValue
  | .error .tooDeep => throw (.outside .tooDeep)

def failRequest (url : Text) : Web.TransportFailure → Loading Json
  | .timeout => do
    note .error sourceSpeaker ("Request timeout for URL: " ++ url)
    throw (.timeout url)
  | .connection text =>
    giveUp ("Connection error for URL " ++ url) (.text text) (.connection url)
  | .status s => do
    note .error sourceSpeaker ("HTTP error " ++ s.text ++ " for URL: " ++ url)
    throw (.status url s)
  | .badRequest text =>
    giveUp (LoadError.badResponseHeadline url) (.foreign text) (.badResponse url (.foreign text))
  | .other text =>
    giveUp ("Request error for URL " ++ url) (.text text) (.request url text)
  | .unexpected o => throw (.outside o)

def fetch (transport : Web.Transport) (url : Text) : Loading Json :=
  match transport url >>= Web.checked with
  | .ok r => readReply url r
  | .error f => failRequest url f

def loadUrl (transport : Web.Transport) (url : Text) : Loading Loaded := do
  note .debug sourceSpeaker ("Attempting to load schema from URL: " ++ url)
  match Web.Url.read url with
  | .error o => throw (.outside o)
  | .ok parts =>
    if parts.isComplete then
      let value ← fetch transport url
      note .info sourceSpeaker ("Loaded schema from " ++ url)
      return ⟨url, ← requireObject url value⟩
    else
      note .error sourceSpeaker ("Invalid URL format: " ++ url)
      throw (.incompleteUrl url)

/-! ## Streams, and the choice between sources -/

def loadStream (t : Text) : Loading Loaded := do
  let value ← readJson t
    (giveUp "Invalid JSON on stdin" (.outside .malformedJson) .malformedStream)
  return ⟨"<stdin>", ← requireObject "stdin" value⟩

inductive Source where
  | file (name : Text)
  | url (url : Text)

/-- Exactly one of a file and a web address; an empty one is none. -/
def Source.choose : Text → Text → Except LoadError Source
  | [], [] => .error .nothingGiven
  | [], address => .ok (.url address)
  | name, [] => .ok (.file name)
  | _, _ => .error .bothGiven

def loadDocument (tree : Files.Tree) (transport : Web.Transport) (file url : Text) :
    Loading Loaded := do
  match ← (Source.choose file url : Except LoadError Source) with
  | .file file => loadFile tree file
  | .url url => loadUrl transport url

end CatchAll.Schema
