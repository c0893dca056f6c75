import CatchAll.Template.Basic
import CatchAll.Template.Segment
import CatchAll.Template.Symbol

/-!
# Reading templates

A slot is a name with fields and filters; conditions and loops are opened and
closed by marks. Filters have to be known, except in a condition, where only one
that is reached has to be.
-/

set_option autoImplicit false

namespace CatchAll.Template

open scoped Text

/-- The names that stand for values of their own. -/
def constants : Fields :=
  [("true", .bool true), ("True", .bool true), ("false", .bool false), ("False", .bool false),
   ("none", .null), ("None", .null)]

/-! ## Slots -/

/-- How far to indent, if a value can tell. -/
def widthOf? : Json → Option Nat
  | .int i => some i.toNat
  | .bool b => some b.toNat
  | _ => none

/-- A filter by its name, with the arguments that it is given. -/
def filterOf (name : Text) (arguments : List Json) : Filter :=
  if name = "indent" then
    match arguments with
    | [] => .indent 4
    | [v] => ((widthOf? v).map Filter.indent).getD .misfit
    | _ => .misfit
  else if name = "comment" then
    match arguments with
    | [] => .comment "//"
    | [v] => .comment v.shown
    | _ => .misfit
  else if name = "join" then
    match arguments with
    | [] => .join []
    | v :: _ => .join v.shown
  else .unknown

/-- One argument of a filter, and what follows. -/
def argument? : List Symbol → Option (Json × List Symbol)
  | .value v :: rest => some (v, rest)
  | .name name :: rest => (Table.get? name constants).map (·, rest)
  | .sign '-' :: .value (.int i) :: rest => some (.int (-i), rest)
  | .sign '-' :: .value (.num f) :: rest => some (.num (-f), rest)
  | _ => none

/-- The arguments up to the closing bracket, in as many steps as there are symbols, and
what follows. -/
def argumentsIn? : Nat → List Symbol → Option (List Json × List Symbol)
  | _, .sign ')' :: rest => some ([], rest)
  | steps + 1, symbols => do
    let (v, rest) ← argument? symbols
    match rest with
    | .sign ',' :: rest =>
      let (more, rest) ← argumentsIn? steps rest
      return (v :: more, rest)
    | .sign ')' :: rest => return ([v], rest)
    | _ => none
  | 0, _ => none

/-- Arguments in brackets, if there are any. -/
def arguments? : List Symbol → Option (List Json × List Symbol)
  | .sign '(' :: rest => argumentsIn? rest.length rest
  | rest => some ([], rest)

/-- The fields behind a name, and what follows. -/
def fieldsFrom (slot : Slot) : List Symbol → Slot × List Symbol
  | .sign '.' :: .name field :: rest => fieldsFrom (slot.field field) rest
  | rest => (slot, rest)

/-- The filters at the end of a slot, in as many steps as there are symbols. -/
def filtersFrom? (slot : Slot) : Nat → List Symbol → Option Slot
  | _, [] => some slot
  | steps + 1, .sign '|' :: .name filter :: rest => do
    let (arguments, rest) ← arguments? rest
    filtersFrom? (slot.through (filterOf filter arguments)) steps rest
  | _, _ => none

def slotOf? : List Symbol → Option Slot
  | .name name :: rest =>
    let (slot, rest) := fieldsFrom (Slot.ofName name) rest
    filtersFrom? slot rest.length rest
  | _ => none

/-! ## Nesting -/

/-- An open condition with the branches that are complete, the last one first, or an
open loop; with the nodes before it kept backwards. -/
inductive Opened where
  | cond (done : List (Slot × List Node)) (slot : Slot) (before : List Node)
  | otherwise (done : List (Slot × List Node)) (before : List Node)
  | each (name : Text) (slot : Slot) (before : List Node)

structure Nesting where
  opened : List Opened
  back : List Node

/-- Conditions one after the other are conditions inside each other. -/
def condOf (no : List Node) (done : List (Slot × List Node)) : List Node :=
  done.foldl (fun no (slot, yes) => [.cond slot yes no]) no

def Nesting.mark (n : Nesting) (inside : List Symbol) : Except Fault Nesting :=
  let slotFrom (rest : List Symbol) : Except Fault Slot :=
    match slotOf? rest with
    | some slot => .ok slot
    | none => .error .malformed
  match inside, n.opened with
  | .name keyword :: rest, opened =>
    if keyword = "if" then do
      return ⟨.cond [] (← slotFrom rest) n.back :: opened, []⟩
    else if keyword = "elif" then
      match opened with
      | .cond done slot before :: outer => do
        return ⟨.cond ((slot, n.back.reverse) :: done) (← slotFrom rest) before :: outer, []⟩
      | _ => .error .malformed
    else if keyword = "for" then
      match rest with
      | .name name :: .name word :: rest =>
        if word = "in" && !Table.has name constants then do
          return ⟨.each name (← slotFrom rest) n.back :: opened, []⟩
        else .error .malformed
      | _ => .error .malformed
    else if !rest.isEmpty then .error .malformed
    else if keyword = "else" then
      match opened with
      | .cond done slot before :: outer =>
        .ok ⟨.otherwise ((slot, n.back.reverse) :: done) before :: outer, []⟩
      | _ => .error .malformed
    else if keyword = "endif" then
      match opened with
      | .cond done slot before :: outer =>
        .ok ⟨outer, condOf [] ((slot, n.back.reverse) :: done) ++ before⟩
      | .otherwise done before :: outer => .ok ⟨outer, condOf n.back.reverse done ++ before⟩
      | _ => .error .malformed
    else if keyword = "endfor" then
      match opened with
      | .each name slot before :: outer => .ok ⟨outer, .each name slot n.back.reverse :: before⟩
      | _ => .error .malformed
    else .error .malformed
  | _, _ => .error .malformed

def Nesting.add (n : Nesting) (segment : Segment) : Except Fault Nesting :=
  match segment with
  | .lit t => .ok { n with back := .lit t :: n.back }
  | .broken => .error .malformed
  | .tag tag =>
    match tag.kind with
    | .slot =>
      match (symbols? tag.inside).bind slotOf? with
      | some slot => .ok { n with back := .put slot :: n.back }
      | none => .error .malformed
    | .mark =>
      match symbols? tag.inside with
      | some inside => n.mark inside
      | none => .error .malformed
    | .comment | .rawStart | .rawEnd => .ok n

/-! ## Filters -/

def Slot.isKnown (slot : Slot) : Bool :=
  slot.filters.all fun filter => match filter with
    | .unknown => false
    | _ => true

mutual

/-- Every filter is known, except in conditions. -/
def Node.isKnown : Node → Bool
  | .lit _ => true
  | .put slot => slot.isKnown
  | .cond _ yes no => loopsKnown yes && loopsKnown no
  | .each _ slot body => slot.isKnown && allKnown body

def allKnown : List Node → Bool
  | [] => true
  | node :: rest => node.isKnown && allKnown rest

/-- Every filter in a loop is known. -/
def Node.loopKnown : Node → Bool
  | .lit _ | .put _ => true
  | .cond _ yes no => loopsKnown yes && loopsKnown no
  | .each _ _ body => allKnown body

def loopsKnown : List Node → Bool
  | [] => true
  | node :: rest => node.loopKnown && loopsKnown rest

end

def read (t : Text) : Except Fault (List Node) := do
  let last ← (segments t).foldlM Nesting.add ⟨[], []⟩
  let nodes := last.back.reverse
  if !last.opened.isEmpty then throw .malformed
  else if !allKnown nodes then throw .unknownFilter
  else return nodes

end CatchAll.Template
