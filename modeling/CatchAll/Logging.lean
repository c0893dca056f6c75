import CatchAll.Files.Tree
import CatchAll.Text.Casing

/-!
# Log levels and log files

The level of a log is chosen by its name, in any case, or by a number. A log
file receives the records from that level on as they are made, one line for
each; the file may be one that is read or written for another reason as well.
-/

set_option autoImplicit false

namespace CatchAll

open scoped Text

namespace Logging

def root : Text := "openenum"

/-- All logs of this library are below one root. -/
def loggerName (name : Text) : Text :=
  if name = root || (root ++ ".").isPrefixOf name then name else root ++ "." ++ name

/-- A level by its name, by a number, or by a truth value, which counts as a number;
anything else chooses none. -/
inductive Choice where
  | label (t : Text)
  | number (n : Int)
  | flag (b : Bool)
  | neither

def Choice.ofLabel? (label : Option Text) : Choice := (label.map Choice.label).getD .neither

def defaultLevel : Text := "WARNING"

inductive LoggingError where
  | unknownLevel (label : Text)
  | outside (o : Outside)

def LoggingError.message? : LoggingError → Option Text
  | unknownLevel label => some ("Unknown log level: " ++ label)
  | outside _ => none

/-- A level that is in force, and what it is called. -/
structure Threshold where
  severity : Int
  title : Text

namespace Threshold

def ofLevel (level : Level) : Threshold := ⟨level.severity, level.label⟩

def ofNumber (n : Int) (shown : Text) : Threshold :=
  if n = 0 then ⟨n, "NOTSET"⟩
  else match Level.all.find? fun level => (level.severity : Int) = n with
    | some level => ofLevel level
    | none => ⟨n, "Level " ++ shown⟩

def ofChoice : Choice → Except LoggingError Threshold
  | .number n => .ok (ofNumber n (Text.ofInt n))
  | .flag b => .ok (ofNumber b.toNat (if b then "True" else "False"))
  | .label t =>
    match Level.ofLabel? (Text.upper t) with
    | some level => .ok (ofLevel level)
    | none => .error (.unknownLevel t)
  | .neither => .error (.outside .wrongKind)

/-- A level of zero is no level of its own. -/
def accepts (t : Threshold) (r : Record) : Bool :=
  t.severity ≠ 0 && t.severity ≤ r.level.severity

end Threshold

/-- A log that is set up: the level from which on it keeps records, the place of its
file if it has one, and what its lines begin with. -/
structure Log where
  threshold : Threshold
  file : Option (List Text)
  stamp : Text

/-- Opens the file, if a name is given. The name is taken as it is written: a step
up is taken back with the step before it, without a look at the files. -/
def openFile (tree : Files.Tree) (file : Text) :
    Except LoggingError (Files.Tree × Option (List Text)) :=
  if file = [] then .ok (tree, none)
  else match tree.target (Files.Path.ofText file).normalSteps with
    | .ok place => .ok (tree.touch place, some place)
    | .error o => .error (.outside o)

/-- What a line shows of a record: what others say is left out. -/
def recordText (r : Record) : Text :=
  match r.reason with
  | none => r.message
  | some (.text t) | some (.wrapped t _) => r.message ++ ": " ++ t
  | some (.foreign _) | some (.outside _) => r.message

namespace Log

def line (log : Log) (r : Record) : Text :=
  log.stamp ++ " " ++ Text.padEnd 8 r.level.label ++ " " ++ r.speaker ++ ": " ++ recordText r

/-- Puts the lines of new records at the end of the file of the log. -/
def keep (log : Log) (records : List Record) (tree : Files.Tree) : Files.Tree :=
  match log.file with
  | none => tree
  | some place =>
    let new := (records.filter log.threshold.accepts).flatMap fun r => log.line r ++ ['\n']
    tree.append place (String.ofList new).toUTF8

/-- The first record tells the level. -/
def opening (log : Log) : Record :=
  ⟨.debug, root, "Logging initialized at level " ++ log.threshold.title, none⟩

end Log

def setUp (tree : Files.Tree) (choice : Choice) (file stamp : Text) :
    Except LoggingError (Files.Tree × Log) := do
  let threshold ← Threshold.ofChoice choice
  let (tree, place) ← openFile tree file
  let log : Log := ⟨threshold, place, stamp⟩
  return (log.keep [log.opening] tree, log)

end Logging

end CatchAll
