import CatchAll.Proofs.Target.Contexts
import CatchAll.Proofs.Target.Literals
import CatchAll.Proofs.Writer

/-!
# Reading a Python class

A class is read from the text of the module: the cases of its conversion from a
text, and the assignments below the class that make its constants. Documentation
stands before the conversion, so the last line that opens one is the one that
counts. Assignments are carried out one after the other, and a name that the
class needs for itself must not be assigned to.
-/

set_option autoImplicit false

namespace CatchAll.Target.Python

open scoped Text
open Naming Schema Text.Literal

/-! ## Readers -/

/-- What follows the last line of a kind. -/
def afterLast (header : Text) : List Text → Option (List Text)
  | [] => none
  | line :: rest =>
    match afterLast header rest with
    | some found => some found
    | none => if line = header then some rest else none

def trimmed (line : Text) : Text := line.dropWhile Text.isIndent

/-- A documentation string that is closed on its line and has no escapes. -/
def isDocLine (line : Text) : Bool :=
  ((trimmed line).dropPrefix? "\"\"\"").any fun rest =>
    rest.dropWhile (fun c => c ≠ '"' && c ≠ '\\') = "\"\"\"".toList

/-- A case that gives a constant for one text: that text and the name of the constant. -/
def readCase (line body : Text) : Option (Text × Text) := do
  let (value, rest) ← unquote? escapes (← (trimmed line).dropPrefix? "case ")
  let (name, end_) := cutName (← (trimmed body).dropPrefix? "return cls.")
  if rest = [':'] && end_ = [] then return (value, name) else none

def catchAllReturn : Text := "return cls." ++ catchAllName ++ "(" ++ wrapperName ++ "(other))"

/-- The cases in order, up to the one for every other text. -/
def readCases : List Text → Option (Table Text)
  | line :: body :: rest =>
    if trimmed line = "case other:" then
      if trimmed body = catchAllReturn then some [] else none
    else do
      let entry ← readCase line body
      return entry :: (← readCases rest)
  | _ => none

def fromStrHeader (typeName : Text) : Text :=
  "def from_str(cls, s: str) -> " ++ typeName ++ ":"

/-- The names of constants by the texts that give them. -/
def readFromStr : List Text → Option (Table Text)
  | doc :: matching :: rest =>
    if isDocLine doc && trimmed matching = "match s:" then readCases rest else none
  | _ => none

/-- A constant: where it is kept, and the name and the value that it is made with. -/
def readAssignment (typeName line : Text) : Option (Text × (Text × Text)) := do
  let (constant, rest) := cutName (← line.dropPrefix? (typeName ++ "."))
  let (name, rest) ← unquote? escapes (← rest.dropPrefix? (" = " ++ typeName ++ "("))
  let (value, rest) ← unquote? escapes (← rest.dropPrefix? ", ")
  if rest = [')'] then return (constant, (name, value)) else none

/-- A line that begins with a character that shows. -/
def atMargin (line : Text) : Bool := line.head?.any fun c => !Text.isBlank c

/-- The attributes that a class has before its constants. -/
def ownNames : List Text :=
  ["__slots__", "__init__", catchAllName, "from_str", "parse", "as_str", "values", "name",
    "_name", "_value", "__eq__", "__hash__", "__repr__", "__str__"]

/-- What a class converts by: the cases, and its constants by attribute. -/
structure Converter where
  cases : Table Text
  constants : Table (Text × Text)

/-- All that stands at the margin below the conversion are the assignments. -/
def readClass (typeName code : Text) : Option Converter := do
  let rest ← afterLast ("    " ++ fromStrHeader typeName) (Text.lines code)
  let cases ← readFromStr rest
  let assignments ← (rest.filter atMargin).mapM (readAssignment typeName)
  if assignments.any fun a => a.1 ∈ ownNames then none
  return ⟨cases, Table.ofPairs assignments⟩

/-- An instance of a class: a constant with its name and value, or the catch-all with the
text that it wraps. -/
inductive Instance where
  | constant (name value : Text)
  | unknown (held : Text)

/-- The conversion from a text; a case for an attribute that is not there fails. -/
def Converter.fromStr? (cls : Converter) (s : Text) : Option Instance :=
  match Table.get? s cls.cases with
  | some constant =>
    (Table.get? constant cls.constants).map fun made => .constant made.1 made.2
  | none => some (.unknown s)

def Instance.asStr : Instance → Text
  | .constant _ value => value
  | .unknown held => held

/-! ## Lines -/

/-- The spaces and tabs before a line. -/
def IsMargin (t : Text) : Prop := ∀ c ∈ t, Text.isIndent c = true

theorem IsMargin.append {a b : Text} (ha : IsMargin a) (hb : IsMargin b) : IsMargin (a ++ b) :=
  List.forall_mem_append.mpr ⟨ha, hb⟩

theorem isMargin_four : IsMargin (List.replicate 4 ' ') :=
  fun _ hx => List.eq_of_mem_replicate hx ▸ rfl

theorem trimmed_append {margin line : Text} (hmargin : IsMargin margin) {c : Char}
    (h : line.head? = some c) (hc : Text.isIndent c = false) : trimmed (margin ++ line) = line := by
  rw [trimmed, List.dropWhile_append_of_pos hmargin]
  cases line with
  | nil => rfl
  | cons d line =>
    obtain rfl : d = c := Option.some.inj h
    rw [List.dropWhile_cons_of_neg (by simp [hc])]

theorem afterLast_append {header : Text} {rest : List Text} (h : header ∉ rest)
    (before : List Text) : afterLast header (before ++ header :: rest) = some rest := by
  have hnone : ∀ ls : List Text, header ∉ ls → afterLast header ls = none := by
    intro ls
    induction ls with
    | nil => exact fun _ => rfl
    | cons line ls ih =>
      intro hnot
      rw [afterLast, ih fun hmem => hnot (List.mem_cons_of_mem line hmem)]
      refine if_neg fun heq => hnot ?_
      rw [heq]
      exact List.mem_cons_self
  induction before with
  | nil =>
    rw [List.nil_append, afterLast, hnone rest h]
    exact if_pos rfl
  | cons line before ih =>
    rw [List.cons_append, afterLast, ih]

end CatchAll.Target.Python
