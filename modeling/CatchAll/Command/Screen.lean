import CatchAll.Console.Block
import CatchAll.Logging

/-!
# What a command works on

A command sees a tree of files and writes to two screens: results go to the
first one and messages to the second one. What is recorded goes to the log, if
there is one, and thereby to its file. Messages are markup; a message that
cannot be read as markup stops the command, as an outside failure does. A
complaint stops it as well, and is shown at the end.
-/

set_option autoImplicit false

namespace CatchAll.Command

open scoped Text

structure World where
  files : Files.Tree
  out : Text
  err : Text
  log : Option Logging.Log

def World.keep (world : World) (records : List Record) : World :=
  match world.log with
  | some log => { world with files := log.keep records world.files }
  | none => world

inductive Stop where
  | complaint (t : Text)
  | outside (o : Outside)
  | markup

abbrev Work := ExceptT Stop (StateM World)

namespace Work

/-- Work that reports to a journal, with its failures as reasons to stop. The records
are kept when it is done. -/
def ofJournaled {ε α : Type} (stop : ε → Stop) (work : Journaled ε α) : Work α := do
  let (result, journal) := work.run
  modifyThe World (·.keep journal.toList)
  match result with
  | .ok a => return a
  | .error e => throw (stop e)

def ofUnfailing {α : Type} (work : StateM Journal α) : Work α :=
  ofJournaled (fun (e : Empty) => nomatch e) (liftM work)

def record (level : Level) (speaker message : Text) : Work Unit :=
  ofUnfailing (note level speaker message)

def put (t : Text) : Work Unit :=
  modifyThe World fun world => { world with out := world.out ++ t }

def stopOfFault : Console.Fault → Stop
  | .tags => .markup
  | .color => .outside .badValue

def rendered (b : Console.Block) : Work Text :=
  match b.text with
  | .ok t => return t
  | .error fault => throw (stopOfFault fault)

/-- Shows a block among the results. -/
def result (b : Console.Block) : Work Unit := do put (← rendered b)

/-- Shows a block among the messages. -/
def message (b : Console.Block) : Work Unit := do
  let t ← rendered b
  modifyThe World fun world => { world with err := world.err ++ t }

def say (markup : Text) : Work Unit := message (.line markup)

end Work

end CatchAll.Command
