import CatchAll.Command.Run
import Std.Time.Format

/-!
# The program

Looks at what a command line names, runs it, and carries out what came of it.
There is no access to the web from here.
-/

set_option autoImplicit false

namespace CatchAll.Program

open scoped Text
open Command

def pathText (steps : List Text) : String :=
  match steps with
  | ['/'] :: rest => String.ofList ("/" ++ Text.joinWith "/" rest)
  | steps => String.ofList (Text.joinWith "/" steps)

/-- What stands at a place, if anything does. -/
def look (steps : List Text) : IO (Option (List Text × Files.Entry)) := do
  try
    return some (steps, .file (← IO.FS.readBinFile (pathText steps)))
  catch e =>
    match e with
    | .inappropriateType _ _ _ => return some (steps, .directory)
    | _ => return none

/-- The places on the way to a place, and the place itself. -/
def wayTo (steps : List Text) : List (List Text) :=
  (List.range steps.length).map fun n => steps.take (n + 1)

def waysTo (names : List Text) : List (List Text) :=
  (names.filter (· ≠ [])).flatMap fun name =>
    let path := Files.Path.ofText name
    wayTo path.key ++ wayTo path.normalSteps

def namesOf (r : Request) : List Text := [r.file, r.config, r.output, r.logFile]

def survey (asked : Except Stopped Asked) : IO Files.Tree := do
  match asked with
  | .ok (.generation r) => (waysTo (namesOf r)).eraseDups.filterMapM look
  | _ => return []

/-- The standard input is read only for those who ask for it. -/
def readInput (asked : Except Stopped Asked) : IO Text := do
  match asked with
  | .ok (.generation r) =>
    if r.stdin then return (← (← IO.getStdin).readToEnd).toList else return []
  | _ => return []

def isKept (before : Files.Tree) (place : List Text) (bytes : ByteArray) : Bool :=
  match before.entry? place with
  | some (.file old) => old.toList == bytes.toList
  | _ => false

def saveFiles (before after : Files.Tree) : IO Unit := do
  for (place, entry) in after do
    match entry with
    | .file bytes =>
      unless isKept before place bytes do IO.FS.writeBinFile (pathText place) bytes
    | .directory => pure ()

/-- The local time with milliseconds. -/
def timeStamp : IO Text := do
  let now ← Std.Time.PlainDateTime.now
  return (now.format "uuuu-MM-dd HH:mm:ss,SSS").toList

def exitCode : Except Stop Nat → UInt32
  | .ok n => n.toUInt32
  | .error _ => 1

def execute (args : List String) : IO UInt32 := do
  let words := args.map String.toList
  let asked := Asked.read words
  let before ← survey asked
  let e := run ⟨← readInput asked, Web.offline, ← timeStamp⟩ before words
  (← IO.getStdout).putStr (String.ofList e.world.out)
  (← IO.getStderr).putStr (String.ofList e.world.err)
  saveFiles before e.world.files
  return exitCode e.exit

end CatchAll.Program

def main (args : List String) : IO UInt32 := CatchAll.Program.execute args
