import CatchAll.Target.Context
import CatchAll.Target.Emission
import CatchAll.Target.Placeholder
import CatchAll.Target.RustNames
import CatchAll.Writer

/-!
# The catch-all policy for Rust

An enum gets one variant more than it has named members. It holds a value that
was not known when the code was generated, so that converting a text never
fails. Each fragment is a text of its own; the fragments that name the wrapper
take its path as an argument.
-/

set_option autoImplicit false

namespace CatchAll.Target.Rust

open scoped Text
open Schema

def conversionTrait : Text := "::std::convert::From"

/-- One arm of the conversion from a text. -/
def fromArm (typeName : Text) (arm : Text × Text) : Text :=
  literal arm.2 ++ " => " ++ typeName ++ "::" ++ arm.1 ++ ","

def catchAllArm (typeName path : Text) : Text :=
  "other => " ++ typeName ++ "::" ++ catchAllName ++ "(" ++ path ++ "(other.to_owned())),"

def fromArms (layout : Layout) (c : Context) (path : Text) : Text :=
  let w := c.arms.foldl (fun w arm => w.write (fromArm c.typeName arm)) (Writer.start layout)
  (w.write (catchAllArm c.typeName path)).render

def fromImplText (layout : Layout) (c : Context) (path : Text) : Text :=
  let body : Text :=
    "impl " ++ conversionTrait ++ "<&str> for " ++ c.typeName ++ " \x7b\n" ++
    "    fn from(s: &str) -> Self \x7b\n" ++
    "        match s \x7b\n" ++
    Template.indentLines 12 (fromArms layout c path) ++ "\n" ++
    "        \x7d\n" ++
    "    \x7d\n" ++
    "\x7d"
  ((Writer.start layout).write body).render

def fromStrImplText (layout : Layout) (c : Context) : Text :=
  let header : Text := "impl ::std::str::FromStr for " ++ c.typeName ++ " \x7b"
  let signature : Text :=
    "fn from_str(s: &str) -> ::std::result::Result<Self, <Self as ::std::str::FromStr>::Err> \x7b"
  let w := (Writer.start layout).block header (some "\x7d") fun w =>
    ((w.write "type Err = ::std::convert::Infallible;").blank).block signature (some "\x7d")
      fun w => w.write ("::std::result::Result::Ok(" ++ c.typeName ++ "::from(s))")
  w.render

def membersText (layout : Layout) (path : Text) : Text :=
  let w := (Writer.start layout).docs
    ("`" ++ catchAllName ++
      "` contains new variants that have been added since this code was generated.")
  (w.write (catchAllName ++ "(" ++ path ++ "),")).render

def asStrArmText (c : Context) : Text :=
  c.typeName ++ "::" ++ catchAllName ++ "(value) => value.as_str(),"

/-! ## Documentation -/

def exampleArm (typeName variant : Text) : Text :=
  "    " ++ typeName ++ "::" ++ variant ++ " => \x7b /* ... */ \x7d,"

def guardArm (placeholder : Text) : Text :=
  "    other @ _ if other.as_str() == \"" ++ placeholder ++
  "\" => \x7b /* handles a case for `" ++ placeholder ++ "` */ \x7d,"

def explanation (typeName binding placeholder : Text) : Text :=
  let future := typeName ++ "::" ++ placeholder
  withMargin 12
    ["The above code demonstrates that when `" ++ binding ++ "` represents",
     "`" ++ placeholder ++
       "`, the execution path will lead to the second last match arm,",
     "even though the enum does not contain a variant `" ++ future ++ "`",
     "in the current version of SDK. The reason is that the variable `other`,",
     "created by the `@` operator, is bound to",
     "`" ++ typeName ++ "::" ++ catchAllName ++ "(" ++ wrapperName ++ "(\"" ++ placeholder ++
       "\".to_owned()))`",
     "and calling `as_str` on it yields `\"" ++ placeholder ++ "\"`.",
     "This match expression is forward-compatible when executed with a newer",
     "version of SDK where the variant `" ++ future ++ "` is defined.",
     "Specifically, when `" ++ binding ++ "` represents `" ++ placeholder ++ "`,",
     "the execution path will hit the second last match arm as before by virtue of",
     "calling `as_str` on `" ++ future ++ "` also yielding `\"" ++ placeholder ++ "\"`."]

def placeholder (members : List Member) : Text := choosePlaceholder members placeholderBase none

def docsText (layout : Layout) (c : Context) : Text :=
  let binding := vocabulary.nameOf c.typeName .snake
  let shown := placeholder c.members
  let w := (Writer.start layout).docs (forwardNote c.typeName "SDK")
  let w := (w.docs []).docs
    "Here is an example of how you can make a match expression forward-compatible:"
  let w := (w.docs []).docs "```text"
  let w := w.docs ("# let " ++ binding ++ " = unimplemented!();")
  let w := w.docs ("match " ++ binding ++ " \x7b")
  let w := c.variants.foldl (fun w variant => w.docs (exampleArm c.typeName variant)) w
  let w := w.docs (guardArm shown)
  let w := ((w.docs "    _ => \x7b /* ... */ \x7d,").docs "\x7d").docs "```"
  let w := w.docs (explanation c.typeName binding shown)
  ((w.docs []).docs (catchAllCaution catchAllName wrapperName)).render

/-! ## The wrapper -/

def wrapperDocs : Text :=
  withMargin 12
    ["Opaque struct used as inner data for the `" ++ catchAllName ++
       "` variant defined in enums in",
     "the crate",
     [],
     "While this is not intended to be used directly, it is marked as `pub` because it is",
     "part of the enums that are public interface."]

def wrapperText (layout : Layout) (decoration : Text) : Text :=
  let w := (Writer.start layout).docs wrapperDocs
  let w := w.write (decoration ++ "struct " ++ wrapperName ++ "(pub(crate) String);")
  let w := w.block ("impl " ++ wrapperName ++ " \x7b") (some "\x7d") fun w =>
    w.block "pub(crate) fn as_str(&self) -> &str \x7b" (some "\x7d") fun w => w.write "&self.0"
  w.render

def wrapperSource (layout : Layout) (c : Context) : Except Outside Text := do
  match c.decoration with
  | some d => return wrapperText layout (← d.render)
  | none => return wrapperText layout "pub "

/-! ## Emissions -/

/-- The module of the wrapper and the layout of the fragments. -/
structure Policy where
  module : Json
  layout : Layout

namespace Policy

def wrapper (p : Policy) (c : Context) : Emission Text := do
  requestWrapper p.module fun _ => wrapperSource p.layout c
  Emission.ofOutside (wrapperPath p.module)

def members (p : Policy) (c : Context) : Emission Text := do
  return membersText p.layout (← p.wrapper c)

def fromImpl (p : Policy) (c : Context) : Emission Text := do
  return fromImplText p.layout c (← p.wrapper c)

def fromStrImpl (p : Policy) (c : Context) : Text := fromStrImplText p.layout c

def asStrArm (_ : Policy) (c : Context) : Text := asStrArmText c

def docs (p : Policy) (c : Context) : Text := docsText p.layout c

end Policy

end CatchAll.Target.Rust
