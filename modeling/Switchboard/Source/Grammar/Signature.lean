import Switchboard.Source.Grammar.Expr

/-!
# Signatures

The signature of a function tells its name, its receiver, its other parameters
and what it returns. A receiver comes first; one that comes later is the fault.
-/

namespace Switchboard.Source.Grammar

open Switchboard.Source.Parser

variable (g : Grammar)

/-- What stands between the brackets of a signature. -/
inductive FunctionArgument where
  /-- A receiver, with the place of its name. -/
  | receiver (value : Receiver) (pos : Pos)
  /-- A parameter. -/
  | parameter (value : Parameter)
  /-- Dots that stand for any more. -/
  | dots

/-- A receiver. -/
def receiver : Parser FunctionArgument := do
  let byRef ← op? "&"
  if byRef then
    let _ ← lifetime?
  let mutable ← word? "mut"
  let pos ← here
  word "self"
  if !byRef && (← op? ":") then
    let _ ← g.type true
  return .receiver ⟨byRef, mutable⟩ pos

/-- A parameter of a function; one may be no more than a type that begins with a
name and an angle bracket. -/
def functionParameter : Parser FunctionArgument := do
  if ← sees fun ts => atName ts && atOp "<" (skip ts) then
    return .parameter ⟨none, (← g.type true).ty⟩
  let form ← g.pattern
  op ":"
  if ← op? "..." then return .dots
  let t ← g.type true
  match form with
  | .name n => return .parameter ⟨some n, t.ty⟩
  | _ => return .parameter ⟨none, t.ty⟩

/-- An argument of a signature. -/
def functionArgument : Parser FunctionArgument := do
  let _ ← outerAttributes g
  if ← op? "..." then return .dots
  match ← attempt? (receiver g) with
  | some argument => return argument
  | none => functionParameter g

/-- The arguments of a signature. -/
def functionArguments : Parser (Option Receiver × List Parameter) := do
  let (receiver?, parameters) ← repeated (none, []) fun (receiver?, parameters) => do
    if ← atEnd then return .done (receiver?, parameters)
    match ← functionArgument g with
    | .dots =>
      if !(← atEnd) then op ","
      return .done (receiver?, parameters)
    | .receiver value pos =>
      if receiver?.isSome || !parameters.isEmpty then refuseAt pos
      if ← atEnd then return .done (some value, parameters)
      op ","
      return .go (some value, parameters)
    | .parameter value =>
      if ← atEnd then return .done (receiver?, value :: parameters)
      op ","
      return .go (receiver?, value :: parameters)
  return (receiver?, parameters.reverse)

/-- The words in front of a function, and whether it is asynchronous. -/
def functionWords (allowSafe : Bool) : Parser Bool := do
  let _ ← word? "const"
  let isAsync ← word? "async"
  if !(allowSafe && (← word? "safe")) then
    let _ ← word? "unsafe"
  abi
  return isAsync

/-- Whether a signature comes next. -/
def atSignature (allowSafe : Bool) : Parser Bool := do
  let found ← peek? do
    let _ ← functionWords allowSafe
    sees (atWord "fn")
  return found == some true

/-- **A signature**, as a method with the given attributes. -/
def signature (allowSafe : Bool) (attributes : List Attribute) :
    Parser Method := do
  let isAsync ← functionWords allowSafe
  word "fn"
  let pos ← here
  let n ← name
  let isGeneric ← generics g
  let (receiver?, parameters) ← group .paren (functionArguments g)
  let output ← returnType g true
  let _ ← whereClause g
  return {
    name := n
    pos := pos
    attributes := attributes
    isAsync := isAsync
    isGeneric := isGeneric
    receiver := receiver?
    parameters := parameters
    output := output }

end Switchboard.Source.Grammar
