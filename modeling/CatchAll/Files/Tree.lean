import CatchAll.Files.Path
import CatchAll.Journal

/-!
# Files

A tree of files as it is seen from the working directory: each known path is
a directory or holds bytes. A directory exists also when something in it does.
Nothing is known above the working directory but that the directories exist.
Looking at a path never fails for a part that is missing; opening a path does.
-/

set_option autoImplicit false

namespace CatchAll.Files

open scoped Text

inductive Entry where
  | directory
  | file (bytes : ByteArray)

/-- Entries by the steps from the working directory. -/
abbrev Tree := List (List Text × Entry)

inductive Probe where
  | missing (why : Outside)
  | directory
  | file (bytes : ByteArray)

namespace Tree

def entry? (tree : Tree) (steps : List Text) : Option Entry :=
  (tree.find? (·.1 == steps)).map (·.2)

/-- A place that only goes up. -/
def isAbove (steps : List Text) : Bool := steps.all (· = "..")

def isDirectory (tree : Tree) (steps : List Text) : Bool :=
  isAbove steps || (match tree.entry? steps with
    | some .directory => true
    | some (.file _) => false
    | none => tree.any fun known => steps.isPrefixOf known.1)

/-- The directory that a place is in. -/
def parent (place : List Text) : List Text :=
  if isAbove place then place ++ ["..".toList] else place.dropLast

/-- The longest name that a step may have, in bytes. -/
def maxName : Nat := 255

/-- The longest path, in bytes. -/
def maxPath : Nat := 4095

def byteCount (t : Text) : Nat := (String.ofList t).utf8ByteSize

/-- Walks on from a place. A step through something that is no directory fails. -/
def walkFrom (tree : Tree) (place : List Text) : List Text → Except Outside (List Text)
  | [] => .ok place
  | step :: rest =>
    if tree.isDirectory place then
      if byteCount step > maxName then .error .nameTooLong
      else if step = ".." then walkFrom tree (parent place) rest
      else walkFrom tree (place ++ [step]) rest
    else if (tree.entry? place).isSome then .error .notDirectory
    else .error .noSuchFile

/-- The place that steps lead to from the working directory. -/
def walk (tree : Tree) (steps : List Text) : Except Outside (List Text) :=
  if steps.any fun step => '\x00' ∈ step then .error .badValue
  else if byteCount (Text.joinWith "/" steps) > maxPath then .error .nameTooLong
  else tree.walkFrom [] steps

def probeSteps (tree : Tree) (steps : List Text) : Probe :=
  match tree.walk steps with
  | .error why => .missing why
  | .ok place =>
    match tree.entry? place with
    | some (.file bytes) => .file bytes
    | _ => if tree.isDirectory place then .directory else .missing .noSuchFile

def probe (tree : Tree) (p : Path) : Probe := tree.probeSteps p.key

/-- Where a new text would be written, if it can be. -/
def target (tree : Tree) (steps : List Text) : Except Outside (List Text) := do
  let place ← tree.walk steps
  if tree.isDirectory place then throw .isDirectory else return place

/-- Opens a place for more text: nothing is lost, and what was not there is empty. -/
def touch (tree : Tree) (place : List Text) : Tree :=
  if (tree.entry? place).isSome then tree else (place, .file .empty) :: tree

def put (tree : Tree) (place : List Text) (bytes : ByteArray) : Tree :=
  (place, .file bytes) :: tree.filter (·.1 ≠ place)

/-- Writes behind what a file holds. -/
def append (tree : Tree) (place : List Text) (bytes : ByteArray) : Tree :=
  match tree.entry? place with
  | some (.file old) => if bytes.isEmpty then tree else tree.put place (old ++ bytes)
  | _ => tree.put place bytes

end Tree

/-- The text that bytes encode. -/
def decode (bytes : ByteArray) : Except Outside Text :=
  match String.fromUTF8? bytes with
  | some s => .ok s.toList
  | none => .error .undecodable

end CatchAll.Files
