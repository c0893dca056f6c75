import CatchAll.Text.Basic

/-!
# Journal

What the library reports while it works: records in the order in which they
were made, each with a level, the part of the library that speaks and a
message. A record about a failure carries the failure apart from the message.
-/

set_option autoImplicit false

namespace CatchAll

open scoped Text

inductive Level where
  | debug
  | info
  | warning
  | error
  | critical
  deriving DecidableEq

namespace Level

def all : List Level := [debug, info, warning, error, critical]

def label : Level → Text
  | debug => "DEBUG"
  | info => "INFO"
  | warning => "WARNING"
  | error => "ERROR"
  | critical => "CRITICAL"

def severity : Level → Nat
  | debug => 10
  | info => 20
  | warning => 30
  | error => 40
  | critical => 50

def ofLabel? (t : Text) : Option Level := all.find? (·.label == t)

end Level

/-- A failure outside the library: only its kind is known to it. -/
inductive Outside where
  | wrongKind
  | missingOperation
  | missingKey
  | badValue
  | tooLarge
  | tooDeep
  | undecodable
  | malformedJson
  | malformedTemplate
  | unknownFilter
  | filterNotFound
  | isDirectory
  | notDirectory
  | noSuchFile
  | nameTooLong
  | called (kind : Text)
  deriving DecidableEq

/-- What a record about a failure carries: a text, what others say about a text that
is no document, the kind of an outside failure, or a text with the outside failure
behind it. -/
inductive Reason where
  | text (t : Text)
  | foreign (t : Text)
  | outside (o : Outside)
  | wrapped (t : Text) (o : Outside)

structure Record where
  level : Level
  speaker : Text
  message : Text
  reason : Option Reason

abbrev Journal := Array Record

section

variable {m : Type → Type} [MonadStateOf Journal m]

def note (level : Level) (speaker message : Text) : m Unit :=
  modifyThe Journal (·.push ⟨level, speaker, message, none⟩)

def noteFailure (level : Level) (speaker message : Text) (reason : Reason) : m Unit :=
  modifyThe Journal (·.push ⟨level, speaker, message, some reason⟩)

end

/-- Work that reports to the journal and may fail. -/
abbrev Journaled (ε : Type) := ExceptT ε (StateM Journal)

namespace Journaled

def run {ε α : Type} (work : Journaled ε α) : Except ε α × Journal := StateT.run work #[]

end Journaled

end CatchAll
