import Switchboard.Source.Item
import Switchboard.Source.Parser

/-!
# The knots of the grammar

Types, expressions, patterns, statements and items contain each other. The
grammar ties them by a record of parsers, one for each notion that others need:
the parser of a notion is written over such a record, and the record of a level
is made of the parsers over the record of the level below. Every step down a
level follows a token or two at most, so a level of twice the number of tokens
is never used up.

Of what is parsed only the form is kept that the grammar itself asks for later,
and of types what an item declares by them.
-/

namespace Switchboard.Source

/-- **What a path was.** -/
structure PathInfo where
  /-- Whether it began with a double colon. -/
  absolute : Bool
  /-- The number of its segments. -/
  segments : Nat
  /-- The name of its last segment. -/
  last : Word
  /-- The arguments of its last segment, if it has them: the first type among
  them. -/
  arguments : Option (Option Ty)
  /-- Whether no segment has arguments. -/
  plain : Bool

/-- The name of a path that is no more than a name. -/
def PathInfo.single? (p : PathInfo) : Option Word :=
  if p.absolute || p.segments != 1 then none else some p.last

/-- **What a type was.** -/
inductive TypeForm where
  /-- A path, through a trait or not. -/
  | path (qualified : Bool) (info : PathInfo)
  /-- A row of bounds, begun by a word or not, of one bound or more. -/
  | bounds (bare single : Bool)
  /-- A reference. -/
  | reference (mutable : Bool) (target : Ty)
  /-- Anything else. -/
  | other

/-- Whether a type in round brackets is a bound that more may be joined to. -/
def TypeForm.isBound : TypeForm → Bool
  | .path qualified _ => !qualified
  | .bounds bare single => bare && single
  | _ => false

/-- A type as it was read. -/
structure TypeRead where
  /-- Its form. -/
  form : TypeForm
  /-- Its text. -/
  text : String

/-- What an item declares by a type. -/
def TypeRead.ty (t : TypeRead) : Ty :=
  match t.form with
  | .path qualified info =>
    match info.arguments with
    | none => .named t.text qualified info.last
    | some argument => .applied t.text qualified info.last argument
  | .reference mutable target => .reference t.text mutable target
  | .bounds _ _ | .other => .other t.text

/-- **What an expression was.** -/
inductive ExprForm where
  /-- A range. -/
  | range
  /-- A comparison. -/
  | comparison
  /-- An expression that ends a statement by itself. -/
  | blockLike
  /-- A macro call with braces. -/
  | braceMacro
  /-- Anything else. -/
  | other
deriving DecidableEq

/-- **What a pattern was.** -/
inductive PatternForm where
  /-- A name, with what it is bound to or without. -/
  | name (name : Word)
  /-- The rest of a row. -/
  | rest
  /-- A range open at one side, with the place of its dots. -/
  | openRange (dots : Pos)
  /-- Anything else. -/
  | other

/-- What a bound was. -/
inductive BoundForm where
  /-- A trait. -/
  | trait
  /-- A lifetime. -/
  | lifetime
  /-- A list of what is captured. -/
  | capture
deriving DecidableEq

/-- What an argument between angle brackets was. -/
inductive ArgumentForm where
  /-- A lifetime. -/
  | lifetime
  /-- A type. -/
  | type (ty : Ty)
  /-- Anything else. -/
  | other

/-- **How tightly an operator binds**, from the loosest. -/
inductive Rank where
  /-- No operator at all. -/
  | jump
  /-- Assignment, alone or with an operation. -/
  | assign
  /-- A range. -/
  | range
  /-- One truth or another. -/
  | or
  /-- Two truths together. -/
  | and
  /-- Comparison. -/
  | compare
  /-- Union of bits. -/
  | bitOr
  /-- Difference of bits. -/
  | bitXor
  /-- Intersection of bits. -/
  | bitAnd
  /-- A shift of bits. -/
  | shift
  /-- A sum or a difference. -/
  | sum
  /-- A product, a quotient or a remainder. -/
  | product
  /-- Conversion. -/
  | cast
deriving DecidableEq

namespace Rank

/-- The number of ranks below one. -/
def level : Rank → Nat
  | jump => 0
  | assign => 1
  | range => 2
  | or => 3
  | and => 4
  | compare => 5
  | bitOr => 6
  | bitXor => 7
  | bitAnd => 8
  | shift => 9
  | sum => 10
  | product => 11
  | cast => 12

instance : LE Rank := ⟨fun a b => a.level ≤ b.level⟩

instance : LT Rank := ⟨fun a b => a.level < b.level⟩

instance (a b : Rank) : Decidable (a ≤ b) :=
  inferInstanceAs (Decidable (a.level ≤ b.level))

instance (a b : Rank) : Decidable (a < b) :=
  inferInstanceAs (Decidable (a.level < b.level))

end Rank

/-- **The parsers that others need.** -/
structure Grammar where
  /-- A type; whether a row of bounds may follow it. -/
  type : Bool → Parser TypeRead
  /-- A bound; whether it may list captures and whether it may be constant. -/
  bound : Bool → Bool → Parser BoundForm
  /-- An argument between angle brackets. -/
  argument : Parser ArgumentForm
  /-- An expression; whether a structure literal may be one. -/
  expr : Bool → Parser ExprForm
  /-- An expression at the beginning of a statement. -/
  leading : Parser ExprForm
  /-- An operand. -/
  operand : Bool → Parser ExprForm
  /-- The operators after an operand that bind as tightly as a rank. -/
  climb : ExprForm → Bool → Rank → Parser ExprForm
  /-- A pattern without alternatives. -/
  pattern : Parser PatternForm
  /-- The statements of a block. -/
  statements : Parser Unit
  /-- An item after its attributes. -/
  item : Parser Item
  /-- A tree of imports; whether its parts may begin at the root. -/
  useTree : Bool → Parser Unit

/-- The grammar that accepts nothing. -/
def Grammar.closed : Grammar :=
  ⟨fun _ => Parser.refuse, fun _ _ => Parser.refuse, Parser.refuse,
    fun _ => Parser.refuse, Parser.refuse, fun _ => Parser.refuse,
    fun _ _ _ => Parser.refuse, Parser.refuse, Parser.refuse, Parser.refuse,
    fun _ => Parser.refuse⟩

namespace Grammar

open Switchboard.Source.Parser

/-! ## Paths without arguments -/

/-- The words a path may go on with beside names. -/
def pathWords : List String := ["super", "self", "Self", "crate"]

/-- Whether a path begins at the front of a row. -/
def atPath (ts : List Token) : Bool :=
  atName ts || atOneOf pathWords ts || atOp "::" ts

/-- A segment of a path without arguments. -/
def modSegment : Parser Word := do
  require (← sees fun ts => atName ts || atOneOf pathWords ts)
  anyWord

/-- **A path without arguments.** -/
def modPath : Parser PathInfo := do
  let absolute ← op? "::"
  let first ← modSegment
  repeated ⟨absolute, 1, first, none, true⟩ fun (p : PathInfo) => do
    if ← op? "::" then
      let n ← modSegment
      return .go { p with segments := p.segments + 1, last := n }
    else return .done p

/-! ## Visibility -/

/-- **A visibility**, and whether one was given. A restriction is part of it
only when it is one. -/
def visibility : Parser Bool := do
  if !(← word? "pub") then return false
  match ← ahead with
  | .group _ _ .paren body :: _ =>
    if atOneOf ["crate", "self", "super"] body then
      if body.length = 1 then
        let _ ← group .paren anyWord
    else if atWord "in" body then
      group .paren do
        word "in"
        let _ ← modPath
    return true
  | _ => return true

variable (g : Grammar)

/-! ## Attributes -/

/-- The value of an attribute that assigns one: the text of a string that is
all of it. -/
def attributeValue : Parser (Option String) := do
  let alone ← peek? do
    let value ← literal
    require (← atEnd)
    return value
  match alone with
  | some _ => literal
  | none =>
    if ← sees fun ts => atOp "#" ts && atGroup .bracket (skip ts) then refuse
    else
      let _ ← g.expr true
      return none

/-- What stands in the brackets of an attribute. -/
def attributeBody : Parser Attribute := do
  let name : Option Word ←
    if ← sees (atWord "unsafe") then pure (some (← anyWord))
    else pure (PathInfo.single? (← modPath))
  if ← sees atAnyGroup then
    let (_, body) ← rawGroup
    return if name.map Word.text = some "serde" then .serde (Token.rowText body) else .other
  else if ← op? "=" then
    match name.map Word.text, ← attributeValue g with
    | some "doc", some text => return .doc text
    | _, _ => return .other
  else return .other

/-- **The attributes before a part.** -/
def outerAttributes : Parser (List Attribute) := do
  let attributes ← repeated [] fun attributes => do
    if ← op? "#" then
      return .go ((← group .bracket (attributeBody g)) :: attributes)
    else return .done attributes
  return attributes.reverse

/-- **The attributes at the start of what they belong to.** -/
def innerAttributes : Parser (List Attribute) := do
  let attributes ← repeated [] fun attributes => do
    if ← sees fun ts => atOp "#" ts && atOp "!" (skip ts) then
      op "#"
      op "!"
      return .go ((← group .bracket (attributeBody g)) :: attributes)
    else return .done attributes
  return attributes.reverse

/-! ## Blocks -/

/-- A block. -/
def block : Parser Unit := group .brace g.statements

/-- A block that may begin with attributes. -/
def blockWithAttributes : Parser (List Attribute) :=
  group .brace do
    let attributes ← innerAttributes g
    g.statements
    return attributes

/-- A block worked out beforehand. -/
def constBlock : Parser Unit := do
  word "const"
  let _ ← blockWithAttributes g

end Grammar

end Switchboard.Source
