import CatchAll.Config.Merge
import CatchAll.Generator

/-!
# Languages

The registry of target languages keeps a backend under each primary name and a
primary name under each alias. Names are kept in lower case. An alias leads to
its primary name in one step; a name that is no alias stands for itself.
-/

set_option autoImplicit false

namespace CatchAll

open scoped Text
open Target

structure Registry where
  backends : Table Backend
  aliases : Table Text

/-- The sources that the configuration of a new generator can come from. -/
inductive ConfigSource where
  | standard
  | ready (config : Config)
  | overrides (fields : Fields)
  | file (path : Text)
  | unusable (kind : Text)

/-- The source that a value passed for a configuration is. -/
def ConfigSource.ofJson : Json → ConfigSource
  | .null => .standard
  | .obj fields => .overrides fields
  | .str path => .file path
  | value => .unusable value.kind

inductive RegistryError where
  | notAGenerator
  | aliasIsLanguage (byname : Text)
  | aliasTaken (byname target : Text)
  | unknownLanguage (language : Text) (available : List Text)
  | unusableConfig (kind : Text)
  | creation (language : Text) (why : SetupError)

namespace RegistryError

def message : RegistryError → Text
  | notAGenerator => "Generator class must inherit from CodeGenerator"
  | aliasIsLanguage byname => "Alias '" ++ byname ++ "' conflicts with existing primary language"
  | aliasTaken byname target => "Alias '" ++ byname ++ "' already points to '" ++ target ++ "'"
  | unknownLanguage language available =>
    "No generator registered for language: " ++ language ++ ". Available: " ++
      Text.joinWith ", " available
  | unusableConfig kind => "Invalid config type: <class '" ++ kind ++ "'>"
  | creation language why =>
    "Failed to create " ++ language ++ " generator" ++
      (match why.message? with
        | some m => ": " ++ m
        | none => [])

/-- The outside failure behind an error. -/
def cause? : RegistryError → Option Outside
  | creation _ why => why.cause?
  | _ => none

end RegistryError

namespace Registry

def empty : Registry := ⟨[], []⟩

/-- The primary name that a name stands for. -/
def resolve (r : Registry) (name : Text) : Text :=
  let key := Text.lower name
  (Table.get? key r.aliases).getD key

def languages (r : Registry) : List Text := Text.sort (Table.keys r.backends)

def backend? (r : Registry) (name : Text) : Option Backend :=
  Table.get? (r.resolve name) r.backends

def isSupported (r : Registry) (name : Text) : Bool := (r.backend? name).isSome

def backend (r : Registry) (name : Text) : Except RegistryError Backend :=
  match r.backend? name with
  | some b => .ok b
  | none => .error (.unknownLanguage name r.languages)

def aliasesOf (r : Registry) (name : Text) : List Text :=
  Text.sort (Table.keys (r.aliases.filter (·.2 = r.resolve name)))

/-! ## Registration -/

/-- What stands in the way of an alias for `key`. -/
def conflict? (r : Registry) (key byname : Text) : Option RegistryError :=
  if Table.has (Text.lower byname) r.backends then some (.aliasIsLanguage byname)
  else match Table.get? (Text.lower byname) r.aliases with
    | some target =>
      if target = key then none else some (.aliasTaken byname target)
    | none => none

/-- Aliases one after the other, up to the first that is refused. -/
def addAliases (r : Registry) (key : Text) (replace : Bool) :
    List Text → Registry × Option RegistryError
  | [] => (r, none)
  | byname :: rest =>
    if Text.lower byname = key then addAliases r key replace rest
    else match if replace then none else r.conflict? key byname with
      | some e => (r, some e)
      | none =>
        addAliases { r with aliases := r.aliases.put (Text.lower byname) key } key replace rest

/-- What came of a registration. -/
inductive Outcome where
  | registered
  | alreadyThere (key : Text)
  | refused (e : RegistryError)

/-- Registers a backend under a language and its aliases. A language that is there
stays as it is unless it is to be replaced. The aliases before one that is refused
have been added by then. -/
def register (r : Registry) (language : Text) (offer : Option Backend) (aliases : List Text)
    (replace : Bool) : Registry × Outcome :=
  match offer with
  | none => (r, .refused .notAGenerator)
  | some b =>
    let key := Text.lower language
    if Table.has key r.backends && !replace then (r, .alreadyThere key)
    else match r.addAliases key replace aliases with
      | (r, some e) => (r, .refused e)
      | (r, none) => ({ r with backends := r.backends.put key b }, .registered)

def unregister (r : Registry) (name : Text) : Registry :=
  let key := r.resolve name
  ⟨r.backends.erase key, r.aliases.filter (·.2 ≠ key)⟩

/-- The registry with the languages of this library. -/
def builtin : Registry :=
  let r := (empty.register "rust" (some Rust.backend) ["rs".toList] false).1
  (r.register "python" (some Python.backend) ["py".toList] false).1

def speaker : Text := "openenum.codegen.registry"

def registerNoted {m : Type → Type} [Monad m] [MonadStateOf Journal m] (r : Registry)
    (language : Text) (offer : Option Backend) (aliases : List Text) (replace : Bool) :
    m (Registry × Outcome) := do
  let (r, outcome) := r.register language offer aliases replace
  match outcome with
  | .alreadyThere key => note .debug speaker ("Generator for " ++ key ++ " already registered")
  | _ => pure ()
  return (r, outcome)

/-! ## Generators -/

def configOf (tree : Files.Tree) (language : Text) :
    ConfigSource → Journaled SetupError Config
  | .ready config => return config
  | .overrides fields => Config.resolve tree language fields []
  | .file path => Config.resolve tree language [] path
  | .standard | .unusable _ => Config.resolve tree language [] []

/-- A generator for a language under any of its names. -/
def create (r : Registry) (tree : Files.Tree) (language : Text) (source : ConfigSource) :
    Journaled RegistryError Generator := do
  let b ← (r.backend language : Except RegistryError Backend)
  if let .unusable kind := source then throw (.unusableConfig kind)
  let config ← (configOf tree (r.resolve language) source).adapt (.creation language)
  ((Generator.ofConfig b config none).mapError (.creation language) :
    Except RegistryError Generator)

/-- What is told about a language. -/
structure Info where
  name : Text
  className : Text
  extension : Text
  aliases : List Text
  policy : Text
  home : Text

def info (r : Registry) (tree : Files.Tree) (language : Text) :
    Journaled RegistryError Info := do
  let key := r.resolve language
  let g ← r.create tree key .standard
  return {
    name := g.backend.language
    className := g.backend.className
    extension := g.backend.extension
    aliases := r.aliasesOf key
    policy := g.plan.policy.name
    home := g.backend.home }

/-- What is told about each primary name. -/
def allInfo (r : Registry) (tree : Files.Tree) : Journaled RegistryError (Table Info) :=
  r.languages.mapM fun language => do return (language, ← r.info tree language)

end Registry

end CatchAll
