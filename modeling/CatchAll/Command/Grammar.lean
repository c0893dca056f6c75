import CatchAll.Text.Digit
import CatchAll.Text.Quoted

/-!
# Words of a command line

A grammar lists the options of a program. It sorts the words of a command line
into options and plain words: an option may be cut short as long as its start is
that of one option alone, and may carry its value, after an equals sign or, with
a short name, right behind it. After two dashes all words are plain.
-/

set_option autoImplicit false

namespace CatchAll.Command

open scoped Text

inductive Use where
  | value
  | flag
  | help
  | version
  deriving DecidableEq

/-- An option with its names, and the values it accepts once they are converted;
no values means that it accepts all. -/
structure Switch where
  names : List Text
  use : Use
  choices : List Text
  convert : Text → Text

namespace Switch

def flag (names : List Text) : Switch := ⟨names, .flag, [], id⟩

def value (names : List Text) : Switch := ⟨names, .value, [], id⟩

def help : Switch := ⟨["-h".toList, "--help".toList], .help, [], id⟩

def takesValue (s : Switch) : Bool := s.use = .value

/-- The name in messages. -/
def title (s : Switch) : Text := Text.joinWith "/" s.names

end Switch

/-- The one plain word that a program takes: the value of an argument, or a command
that takes all words after it. -/
inductive Operand where
  | argument (name : Text)
  | command (name : Text) (choices : List Text)

namespace Operand

def name : Operand → Text
  | argument name | command name _ => name

end Operand

structure Grammar where
  program : Text
  switches : List Switch
  operand : Operand
  /-- The names of what cannot be given together. -/
  exclusive : List Text

inductive UsageError where
  | ambiguous (word : Text) (names : List Text)
  | valueExpected (argument : Text)
  | valueIgnored (argument value : Text)
  | badChoice (argument value : Text) (choices : List Text)
  | notTogether (argument other : Text)
  | unrecognized (words : List Text)

namespace UsageError

def about (argument complaint : Text) : Text := "argument " ++ argument ++ ": " ++ complaint

def message : UsageError → Text
  | ambiguous word names =>
    "ambiguous option: " ++ word ++ " could match " ++ Text.joinWith ", " names
  | valueExpected argument => about argument "expected one argument"
  | valueIgnored argument value =>
    about argument ("ignored explicit argument " ++ Text.quoted value)
  | badChoice argument value choices =>
    about argument ("invalid choice: " ++ Text.quoted value ++ " (choose from " ++
      Text.joinWith ", " (choices.map Text.quoted) ++ ")")
  | notTogether argument other => about argument ("not allowed with argument " ++ other)
  | unrecognized words => "unrecognized arguments: " ++ Text.joinWith " " words

end UsageError

/-- An option in a word, and the value that came with it in the same word. -/
structure Match where
  switch : Switch
  name : Text
  attached : Option Text

inductive Word where
  | plain (t : Text)
  | dashes
  | known (t : Text) (m : Match)
  | unknown (t : Text)

namespace Word

def text : Word → Text
  | plain t | known t _ | unknown t => t
  | dashes => "--"

def isOption : Word → Bool
  | known _ _ | unknown _ => true
  | plain _ | dashes => false

end Word

namespace Grammar

/-- Every name of every option, in order. -/
def names (g : Grammar) : List (Text × Switch) :=
  g.switches.flatMap fun s => s.names.map fun name => (name, s)

def named? (g : Grammar) (name : Text) : Option Switch :=
  (g.names.find? (·.1 == name)).map (·.2)

/-- A word before its first equals sign, and what follows if there is one. -/
def cutEquals (t : Text) : Text × Option Text :=
  let name := t.takeWhile (· ≠ '=')
  match t.dropWhile (· ≠ '=') with
  | _ :: value => (name, some value)
  | [] => (name, none)

/-- The options that a word may start, or carry a value for. -/
def candidates (g : Grammar) (word : Text) : List Match :=
  match word with
  | '-' :: '-' :: _ =>
    let (start, attached) := cutEquals word
    (g.names.filter fun (name, _) => start.isPrefixOf name).map fun (name, s) =>
      ⟨s, name, attached⟩
  | _ =>
    g.names.filterMap fun (name, s) =>
      if name = word.take 2 then some ⟨s, name, some (word.drop 2)⟩
      else if word.isPrefixOf name then some ⟨s, name, none⟩
      else none

/-- The option that a word names in full. -/
def inFull? (g : Grammar) (word : Text) : Option Match :=
  match g.named? word with
  | some s => some ⟨s, word, none⟩
  | none =>
    match cutEquals word with
    | (name, some attached) => (g.named? name).map fun s => ⟨s, name, some attached⟩
    | (_, none) => none

/-- A dash alone and negative numbers are plain, and so is an unknown word with a space. -/
def classify (g : Grammar) (word : Text) : Except UsageError Word :=
  match word with
  | '-' :: _ :: _ =>
    match g.inFull? word with
    | some m => .ok (.known word m)
    | none =>
      match g.candidates word with
      | [m] => .ok (.known word m)
      | [] =>
        if Text.isNegativeNumber word || ' ' ∈ word then .ok (.plain word)
        else .ok (.unknown word)
      | several => .error (.ambiguous word (several.map (·.name)))
  | _ => .ok (.plain word)

def words (g : Grammar) : List Text → Except UsageError (List Word)
  | [] => .ok []
  | t :: rest =>
    if t = "--" then .ok (.dashes :: rest.map .plain)
    else do return (← g.classify t) :: (← g.words rest)

end Grammar

end CatchAll.Command
