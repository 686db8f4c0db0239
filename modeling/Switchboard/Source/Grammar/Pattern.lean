import Switchboard.Source.Grammar.Type

/-!
# Patterns

A pattern without alternatives is told by the tokens it begins with. A range
may lack its start or its end; one that does is not allowed as a part of a
slice, and the fault is then at its dots.
-/

namespace Switchboard.Source.Grammar

open Switchboard.Source.Parser

variable (g : Grammar)

/-! ## Members -/

/-- The digits of an integer literal and their base. -/
def baseAndDigits : List Char → Nat × List Char
  | '0' :: 'x' :: cs => (16, cs)
  | '0' :: 'o' :: cs => (8, cs)
  | '0' :: 'b' :: cs => (2, cs)
  | cs => (10, cs)

/-- The value of a digit in a base; underscores stand between digits. -/
def digitIn? (base : Nat) (c : Char) : Option Nat :=
  let n :=
    if c.isDigit then c.toNat - '0'.toNat
    else if 'a' ≤ c && c ≤ 'f' then c.toNat - 'a'.toNat + 10
    else if 'A' ≤ c && c ≤ 'F' then c.toNat - 'A'.toNat + 10
    else base
  if n < base then some n else none

/-- **Whether an integer literal is an index**: it has no suffix and fits in
thirty-two bits. -/
def isIndex (text : String) : Bool :=
  let (base, digits) := baseAndDigits text.toList
  let digits := digits.filter (· != '_')
  let value? := digits.foldl (fun n? c => do
    return (← n?) * base + (← digitIn? base c)) (some 0)
  match value? with
  | some n => n < 4294967296
  | none => false

/-- **A member**: a name or an index. It tells whether it is a name. -/
def member : Parser Bool := do
  match ← ahead with
  | .literal _ text .int :: _ =>
    require (isIndex text)
    let _ ← literal
    return false
  | _ =>
    let _ ← name
    return true

/-! ## Ranges -/

/-- **The dots of a range**, and whether its end belongs to it. Three dots are
an old way to write two and an equals sign. -/
def oldRangeDots : Parser Bool := do
  if ← op? "..=" then return true
  if ← sees (atOp "...") then
    let pos ← here
    modify fun s => { s with rest := s.rest.drop 3 }
    writeOp pos "..=".toList
    return true
  op ".."
  return false

/-- The dots of a range, and whether its end belongs to it. -/
def rangeDots : Parser Bool := do
  require !(← sees (atOp "..."))
  oldRangeDots

/-- What follows a range that has no end. -/
def endsRangePattern (ts : List Token) : Bool :=
  ts.isEmpty || atColon ts || atWord "if" ts || atOneOfOps ["|", "=", ",", ";"] ts

/-- Whether an expression may begin with a path at the front of a row. -/
def atExprPath (ts : List Token) : Bool := atPath ts || atOp "<" ts

/-- A bound of a range, if there is one. -/
def rangeBound : Parser Bool := do
  let ts ← ahead
  if endsRangePattern ts then return false
  if atLiteral ts then let _ ← literal
  else if atExprPath ts then let _ ← qualifiedPath g true
  else if atWord "const" ts then constBlock g
  else refuse
  return true

/-- The dots and the end of a range that has a start. -/
def rangeAfterStart : Parser PatternForm := do
  let dots ← here
  let closed ← oldRangeDots
  if ← rangeBound g then return .other
  require !closed
  return .openRange dots

/-- A range without a start, or the rest of a row. -/
def rangeWithoutStart : Parser PatternForm := do
  let dots ← here
  let closed ← rangeDots
  if ← rangeBound g then return .openRange dots
  require !closed
  return .rest

/-! ## Alternatives -/

/-- Whether an alternative follows. -/
def atAlternative (ts : List Token) : Bool :=
  atOp "|" ts && !atOneOfOps ["||", "|="] ts

/-- **A pattern with alternatives**, the first of which may have a bar in front
of it. -/
def alternatives : Parser PatternForm := do
  let bar ← op? "|"
  let form ← g.pattern
  let more ← sees atAlternative
  whileSeen atAlternative do
    op "|"
    let _ ← g.pattern
  return if bar || more then .other else form

/-! ## Patterns -/

/-- A field of a structure pattern. -/
def fieldPattern : Parser Unit := do
  let boxed ← word? "box"
  let byRef ← word? "ref"
  let mutable ← word? "mut"
  if boxed || byRef || mutable then let _ ← name
  else
    let named ← member
    if !named || (← sees (atOp ":")) then
      op ":"
      let _ ← alternatives g

/-- The fields of a structure pattern; two dots end them. -/
def structPattern : Parser Unit :=
  group .brace <| repeated () fun _ => do
    if ← atEnd then return .done ()
    let _ ← outerAttributes g
    if ← op? ".." then return .done ()
    fieldPattern g
    if ← atEnd then return .done ()
    op ","
    return .go ()

/-- The parts of a slice pattern. -/
def slicePattern : Parser Unit :=
  group .bracket do
    let _ ← commaSeparated do
      match ← alternatives g with
      | .openRange dots => refuseAt dots
      | _ => pure ()

/-- Whether a macro call goes on after its path. -/
def atBang (ts : List Token) : Bool := atOp "!" ts && !atOp "!=" ts

/-- A pattern that begins with a path. -/
def pathPattern : Parser PatternForm := do
  let (qualified, p) ← qualifiedPath g true
  let ts ← ahead
  if !qualified && p.plain && atBang ts then
    op "!"
    let _ ← rawGroup
    return .other
  else if atGroup .brace ts then
    structPattern g
    return .other
  else if atGroup .paren ts then
    let _ ← group .paren (commaSeparated (alternatives g))
    return .other
  else if atOp ".." ts then rangeAfterStart g
  else return .other

/-- A pattern that binds a name. -/
def namePattern : Parser PatternForm := do
  let _ ← word? "ref"
  let _ ← word? "mut"
  let n ← if ← sees (atWord "self") then anyWord else name
  if ← op? "@" then let _ ← g.pattern
  return .name n

/-- Whether a pattern begins with a path at the front of a row. -/
def atPathPattern (ts : List Token) : Bool :=
  let next := skip ts
  (atName ts && (atOneOfOps ["::", "!", ".."] next || atGroup .brace next
      || atGroup .paren next))
    || (atWord "self" ts && atOp "::" next)
    || atOneOfOps ["::", "<"] ts || atOneOf ["Self", "super", "crate"] ts

/-- **A pattern without alternatives.** -/
def patternParser : Parser PatternForm := do
  let ts ← ahead
  if atPathPattern ts then pathPattern g
  else if atWord "_" ts then
    word "_"
    return .other
  else if atWord "box" ts then
    word "box"
    let _ ← g.pattern
    return .other
  else if atOp "-" ts || atLiteral ts || atWord "const" ts then
    let _ ← rangeBound g
    if ← sees (atOp "..") then rangeAfterStart g else return .other
  else if atName ts || atOneOf ["ref", "mut", "self"] ts then namePattern g
  else if atOp "&" ts then
    op "&"
    let _ ← word? "mut"
    let _ ← g.pattern
    return .other
  else if atGroup .paren ts then
    let _ ← group .paren (commaSeparated (alternatives g))
    return .other
  else if atGroup .bracket ts then
    slicePattern g
    return .other
  else if atOp ".." ts then rangeWithoutStart g
  else refuse

end Switchboard.Source.Grammar
