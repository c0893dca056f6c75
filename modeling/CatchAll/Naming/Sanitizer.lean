import CatchAll.Naming.Case

/-!
# Fresh names

A sanitizer hands out identifiers that are new and that avoid the words of a
target language. Converted texts are remembered under the text joined with the
label of the case; texts that share such a key share the conversion.
-/

set_option autoImplicit false

namespace CatchAll.Naming

open scoped Text

/-- The words an identifier must avoid: reserved words as they are written, and
names of built-in types in any letter case. -/
structure Vocabulary where
  reserved : List Text
  builtins : List Text

def Vocabulary.claims (v : Vocabulary) (t : Text) : Bool :=
  t ∈ v.reserved || t.map Char.toLower ∈ v.builtins

structure Sanitizer where
  vocabulary : Vocabulary
  used : List Text
  known : List (Text × Text)

namespace Sanitizer

def ofVocabulary (v : Vocabulary) : Sanitizer := ⟨v, [], []⟩

/-- Forgets the names handed out and the conversions remembered. -/
def reset (s : Sanitizer) : Sanitizer := { s with used := [], known := [] }

def addUsed (name : Text) (s : Sanitizer) : Sanitizer :=
  if name ∈ s.used then s else { s with used := s.used ++ [name] }

def avoid (s : Sanitizer) (suffix t : Text) : Text :=
  if s.vocabulary.claims t then t ++ suffix else t

/-- The `n`-th name to try. The underscore is the only suffix that stands
before the counter. -/
def candidate (base suffix : Text) : Nat → Text
  | 0 => base
  | n + 1 => base ++ (if suffix = "_" then suffix else []) ++ Text.ofNat (n + 1)

/-- The first candidate that is not used; one more candidate than there are
used names suffices. -/
def fresh (used : List Text) (base suffix : Text) : Text :=
  match (List.range (used.length + 1)).find? fun n => candidate base suffix n ∉ used with
  | some n => candidate base suffix n
  | none => base

/-- Turns a converted text into a name of its own. -/
def claim (s : Sanitizer) (suffix converted : Text) : Text × Sanitizer :=
  let name := fresh s.used (s.avoid suffix converted) suffix
  (name, s.addUsed name)

def key (shown : Text) (case : Case) : Text := shown ++ "_" ++ case.label

def known? (s : Sanitizer) (k : Text) : Option Text :=
  (s.known.find? (·.1 == k)).map (·.2)

/-- The identifier of a text before conflicts are settled. -/
def convert (s : Sanitizer) (t : Text) (case : Case) : Text × Sanitizer :=
  match s.known? (key t case) with
  | some converted => (converted, s)
  | none =>
    let converted := identifier case t
    (converted, { s with known := (key t case, converted) :: s.known })

/-- A name for a converted text, or none for the empty one. -/
def claim? (s : Sanitizer) (suffix converted : Text) : Option Text × Sanitizer :=
  if converted = [] then (none, s)
  else
    let (name, s) := s.claim suffix converted
    (some name, s)

def derive (s : Sanitizer) (t : Text) (case : Case) (suffix : Text) : Option Text × Sanitizer :=
  let (converted, s) := s.convert t case
  s.claim? suffix converted

/-- What a text without letters and digits is called. -/
def fallback (case : Case) : Text := case.write ["value"]

def sanitize (s : Sanitizer) (t : Text) (case : Case) (suffix : Text) : Text × Sanitizer :=
  match s.derive t case suffix with
  | (some name, s) => (name, s)
  | (none, s) => s.claim suffix (fallback case)

end Sanitizer

/-- The name a new sanitizer gives to a text. -/
def Vocabulary.nameOf (v : Vocabulary) (t : Text) (case : Case) : Text :=
  ((Sanitizer.ofVocabulary v).sanitize t case "_").1

end CatchAll.Naming
