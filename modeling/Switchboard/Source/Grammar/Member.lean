import Switchboard.Source.Grammar.Signature

/-!
# Members of items

Fields and variants, and what stands in the braces of a trait, of a block of
foreign items and of a block of methods. Of the last the methods are told; one
without a body is none.
-/

namespace Switchboard.Source.Grammar

open Switchboard.Source.Parser

variable (g : Grammar)

/-! ## Fields and variants -/

/-- A named field. -/
def namedField (nested : Parser Unit) : Parser StructField := do
  let attributes ← outerAttributes g
  let _ ← visibility
  let pos ← here
  let n ← nameOrBlank
  op ":"
  let anonymous ← sees fun ts => n.text == "_"
    && (atWord "struct" ts || (atWord "union" ts && atGroup .brace (skip ts)))
  if anonymous then
    let (_, tokens) ← written do
      let _ ← anyWord
      nested
    return ⟨n, pos, attributes, .other (Token.rowText tokens)⟩
  else return ⟨n, pos, attributes, (← g.type true).ty⟩

/-- The fields in the braces of a structure, without those of a structure
inside. -/
def fieldsUpTo : Nat → Parser (List StructField)
  | 0 => refuse
  | n + 1 => group .brace <| commaSeparated <| namedField g do
    let _ ← fieldsUpTo n

/-- **The named fields of a structure.** -/
def namedFields : Parser (List StructField) := do
  fieldsUpTo g (Token.countAll (← ahead) + 1)

/-- The fields of a structure that have no names. -/
def unnamedFields : Parser Unit := do
  let _ ← group .paren <| commaSeparated do
    let _ ← outerAttributes g
    let _ ← visibility
    let _ ← g.type true

/-- The value after an equals sign, if there is one. -/
def optionalValue : Parser Unit := do
  if ← op? "=" then anyExpr g

/-- A variant of an enumeration. -/
def variant : Parser Unit := do
  let _ ← outerAttributes g
  let _ ← visibility
  let _ ← name
  if ← sees (atGroup .brace) then
    let _ ← namedFields g
  else if ← sees (atGroup .paren) then unnamedFields g
  optionalValue g

/-! ## Parts that many items share -/

/-- A macro call that is an item. -/
def macroItem (named : Bool) : Parser Unit := do
  let _ ← modPath
  op "!"
  if named && (← sees fun ts => atName ts || atWord "try" ts) then
    let _ ← anyWord
  let (delimiter, _) ← rawGroup
  if delimiter != .brace then op ";"

/-- Bounds with plus signs between them. -/
def boundsUntil (isEnd : List Token → Bool) : Parser Unit := do
  let _ ← separated "+" isEnd (g.bound false true)

/-- Bounds after a colon, if there is one. -/
def optionalBounds (isEnd : List Token → Bool) : Parser Unit := do
  if ← op? ":" then boundsUntil g isEnd

/-- **A declaration of a type**; where its conditions may stand. -/
def typeItem (conditionsBefore conditionsAfter : Bool) : Parser Unit := do
  let _ ← visibility
  word "type"
  let _ ← name
  let _ ← generics g
  optionalBounds g fun ts => atWord "where" ts || atOneOfOps ["=", ";"] ts
  let given ← if conditionsBefore then whereClause g else pure false
  if ← op? "=" then
    let _ ← g.type true
  if conditionsAfter && !given then
    let _ ← whereClause g
  op ";"

/-- The rest of a constant after its first word. -/
def constRest : Parser Unit := do
  let _ ← nameOrBlank
  let _ ← generics g
  op ":"
  let _ ← g.type true
  optionalValue g
  let _ ← whereClause g
  op ";"

/-- Whether a macro call may begin at the front of a row. -/
def atMacroItem (ts : List Token) : Bool :=
  atName ts || atOneOf ["self", "super", "crate"] ts || atOp "::" ts

/-! ## The members of a block of methods -/

/-- A method with its visibility, unless it has no body. -/
def methodMember (attributes : List Attribute) : Parser (Option Method) := do
  let _ ← visibility
  let _ ← word? "default"
  let m ← signature g false attributes
  if ← op? ";" then return none
  let inner ← blockWithAttributes g
  return some { m with attributes := attributes ++ inner }

/-- **A member of a block of methods.** -/
def implMember : Parser (Option Method) := do
  let attributes ← outerAttributes g
  let before ← get
  let given ← visibility
  let isDefault ← sees fun ts => atWord "default" ts && !atOp "!" (skip ts)
  if isDefault then word "default"
  let ts ← ahead
  if ← atSignature false then
    set before
    methodMember g attributes
  else if atWord "const" ts then
    word "const"
    constRest g
    return none
  else if atWord "type" ts then
    typeItem g false true
    return none
  else if !given && !isDefault && atMacroItem ts then
    macroItem false
    return none
  else refuse

/-! ## The members of a trait -/

/-- A body, or a semicolon instead of one. -/
def bodyOrNone : Parser Unit := do
  if ← sees (atGroup .brace) then body g
  else op ";"

/-- **A member of a trait.** -/
def traitMember : Parser Unit := do
  let _ ← outerAttributes g
  let given ← visibility
  let isDefault ← word? "default"
  let ts ← ahead
  let next := skip ts
  if ← atSignature false then
    let _ ← signature g false []
    bodyOrNone g
  else if atWord "const" ts then
    if atName next || atWord "_" next then
      word "const"
      constRest g
    else if atOneOf ["async", "unsafe", "extern", "fn"] next then
      let _ ← signature g false []
      bodyOrNone g
    else
      word "const"
      refuse
  else if atWord "type" ts then typeItem g false true
  else if !given && !isDefault && atMacroItem ts then macroItem false
  else refuse

/-! ## Foreign members -/

/-- **A foreign member.** -/
def foreignMember : Parser Unit := do
  let _ ← outerAttributes g
  let given ← visibility
  let ts ← ahead
  if ← atSignature true then
    let _ ← signature g true []
    bodyOrNone g
  else if atWord "static" ts
      || (atOneOf ["unsafe", "safe"] ts && atWord "static" (skip ts)) then
    if !(← word? "unsafe") then
      let _ ← word? "safe"
    word "static"
    let _ ← word? "mut"
    let _ ← name
    op ":"
    let _ ← g.type true
    optionalValue g
    op ";"
  else if atWord "type" ts then typeItem g true true
  else if !given && atMacroItem ts then macroItem false
  else refuse

/-- The members in the braces of an item. -/
def members {α : Type} (one : Parser α) : Parser (List α) :=
  group .brace do
    let _ ← innerAttributes g
    let list ← repeated [] fun list => do
      if ← atEnd then return .done list
      return .go ((← one) :: list)
    return list.reverse

end Switchboard.Source.Grammar
