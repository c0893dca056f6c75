import CatchAll.Command.Grammar
import CatchAll.Table

/-!
# What a command line gives

The words of a command line are taken from left to right: options with their
values, the one operand, and words that nobody wants. The first fault ends the
reading, as do the options that ask for help or for the version.
-/

set_option autoImplicit false

namespace CatchAll.Command

open scoped Text

/-- Flags and values by the title of their option; of a repeated one the last counts. An
option whose value is two dashes is given, but without a value. -/
structure Given where
  flags : List Text
  values : Table (Option Text)
  argument : Option Text
  command : Option (Text × List Text)
  operandTaken : Bool
  strays : List Text

/-- Why a reading ends before the last word. -/
inductive Halt where
  | usage (e : UsageError)
  | help
  | version

namespace Given

def empty : Given := ⟨[], [], none, none, false, []⟩

def has (given : Given) (title : Text) : Bool := title ∈ given.flags

/-- The value of an option, or the default of one that is not given. -/
def valueOr (given : Given) (title : Text) (default : Option Text) : Option Text :=
  (Table.get? title given.values).getD default

def isGiven (given : Given) (operand title : Text) : Bool :=
  title ∈ given.flags || Table.has title given.values ||
    (given.argument.isSome && title = operand)

/-- Nothing that excludes `title` has been given. -/
def checkAlone (g : Grammar) (given : Given) (title : Text) : Except Halt Unit :=
  if title ∈ g.exclusive then
    match g.exclusive.find? fun other =>
        other ≠ title && given.isGiven g.operand.name other with
    | some other => .error (.usage (.notTogether title other))
    | none => .ok ()
  else .ok ()

def checkChoice (argument : Text) (choices : List Text) (value : Text) : Except Halt Unit :=
  if choices.isEmpty || value ∈ choices then .ok ()
  else .error (.usage (.badChoice argument value choices))

def valueOf (s : Switch) (word : Text) : Except Halt (Option Text) := do
  if word = "--" then return none
  else
    let value := s.convert word
    checkChoice s.title s.choices value
    return some value

def takeValue (g : Grammar) (given : Given) (s : Switch) (word : Text) : Except Halt Given := do
  let value ← valueOf s word
  checkAlone g given s.title
  return { given with values := given.values.put s.title value }

def takeFlag (g : Grammar) (given : Given) (s : Switch) : Except Halt Given :=
  match s.use with
  | .help => .error .help
  | .version => .error .version
  | _ => do
    checkAlone g given s.title
    return { given with flags := s.title :: given.flags }

def takeFlags (g : Grammar) (given : Given) (flags : List Switch) : Except Halt Given :=
  flags.foldlM (takeFlag g) given

/-! ## One word with options -/

/-- How a word with options ends: with its last flag, with a value, or with an option
that takes the next word. -/
inductive Ending where
  | flag
  | value (s : Switch) (value : Text)
  | next (s : Switch)

/-- The flags in a word, and how it ends. -/
structure Bundle where
  flags : List Switch
  ending : Ending

def isShort (name : Text) : Bool := name[1]? ≠ some '-'

def alone (s : Switch) : Bundle := if s.takesValue then ⟨[], .next s⟩ else ⟨[s], .flag⟩

/-- Behind a short flag other short options may follow. -/
def bundle (g : Grammar) (s : Switch) (name : Text) : Text → Except UsageError Bundle
  | [] => if s.takesValue then .ok ⟨[], .value s []⟩ else .error (.valueIgnored s.title [])
  | c :: rest =>
    if s.takesValue then .ok ⟨[], .value s (c :: rest)⟩
    else match if isShort name then g.named? ['-', c] else none with
      | none => .error (.valueIgnored s.title (c :: rest))
      | some s' => do
        let b ← match rest with
          | [] => pure (alone s')
          | d :: behind => bundle g s' ['-', c] (d :: behind)
        return { b with flags := s :: b.flags }

def Match.bundle (g : Grammar) (m : Match) : Except Halt Bundle :=
  match m.attached with
  | none => .ok (alone m.switch)
  | some value => (Given.bundle g m.switch m.name value).mapError .usage

/-! ## All words -/

def takeArgument (g : Grammar) (given : Given) (value : Option Text) : Except Halt Given :=
  match value with
  | none => .ok { given with operandTaken := true }
  | some t => do
    checkAlone g given g.operand.name
    return { given with operandTaken := true, argument := some t }

def takeCommand (given : Given) (name : Text) (choices : List Text) (word : Text)
    (rest : List Text) : Except Halt Given := do
  checkChoice name choices word
  return { given with operandTaken := true, command := some (word, rest) }

def stray (given : Given) (t : Text) : Given := { given with strays := given.strays ++ [t] }

/-- What the plain words at the start are for the operand: its words, and how many
words of the command line they take. -/
def operandWords (operand : Operand) (words : List Word) : Option (List Text × Nat) :=
  match operand, words with
  | .command _ _, .plain t :: rest => some (t :: rest.map Word.text, rest.length + 1)
  | .command _ _, .dashes :: w :: rest =>
    some ("--" :: w.text :: rest.map Word.text, rest.length + 2)
  | .argument _, .plain t :: .dashes :: _ => some ([t], 2)
  | .argument _, .plain t :: _ => some ([t], 1)
  | .argument _, .dashes :: .plain t :: _ => some ([t], 2)
  | .argument _, .dashes :: _ => some ([], 1)
  | _, _ => none

def takeOperand (g : Grammar) (given : Given) (words : List Text) : Except Halt Given :=
  match g.operand, words with
  | .argument _, _ => takeArgument g given words.head?
  | .command name choices, word :: rest => takeCommand given name choices word rest
  | .command _ _, [] => .ok given

/-- Takes the words from the left; `skip` of them belong to what was taken before. -/
def takeWords (g : Grammar) (given : Given) (skip : Nat) : List Word → Except Halt Given
  | [] => .ok given
  | w :: rest =>
    match skip with
    | n + 1 => takeWords g given n rest
    | 0 =>
      match w with
      | .unknown t => takeWords g (given.stray t) 0 rest
      | .known _ m => do
        let b ← Match.bundle g m
        match b.ending, rest with
        | .flag, _ => takeWords g (← given.takeFlags g b.flags) 0 rest
        | .value s value, _ =>
          takeWords g (← (← given.takeFlags g b.flags).takeValue g s value) 0 rest
        | .next s, .plain value :: _ =>
          takeWords g (← (← given.takeFlags g b.flags).takeValue g s value) 1 rest
        | .next s, _ => throw (.usage (.valueExpected s.title))
      | w =>
        match if given.operandTaken then none else operandWords g.operand (w :: rest) with
        | some (words, count) => do
          takeWords g (← takeOperand g given words) (count - 1) rest
        | none => takeWords g (given.stray w.text) 0 rest

/-- Reads the words of a command line. -/
def read (g : Grammar) (words : List Text) : Except Halt Given := do
  takeWords g empty 0 (← (g.words words).mapError .usage)

end Given

end CatchAll.Command
