import Switchboard.Source.Grammar.Member
import Switchboard.Source.Grammar.Statement

/-!
# Items

An item is told by the words it begins with, after its visibility. Blocks of
methods and structures are kept, all others are read and left.
-/

namespace Switchboard.Source.Grammar

open Switchboard.Source.Parser

variable (g : Grammar)

/-! ## Imports -/

/-- **A tree of imports**; whether its parts may begin at the root. -/
def useTreeParser (atRoot : Bool) : Parser Unit := do
  let ts ← ahead
  if atName ts || atOneOf ["self", "super", "crate", "try"] ts then
    let _ ← anyWord
    if ← op? "::" then g.useTree false
    else if ← word? "as" then
      let _ ← nameOrBlank
  else if atOp "*" ts then op "*"
  else if atGroup .brace ts then
    let _ ← group .brace <| commaSeparated do
      let rooted ← if atRoot then op? "::" else pure false
      g.useTree (atRoot && !rooted)
  else refuse

/-- An import. -/
def useItem : Parser Unit := do
  let _ ← visibility
  word "use"
  let rooted ← op? "::"
  g.useTree !rooted
  op ";"

/-! ## Functions and values -/

/-- A function, with a body or without. -/
def functionItem : Parser Unit := do
  let _ ← visibility
  let _ ← signature g false []
  bodyOrNone g

/-- A static value. -/
def staticItem : Parser Unit := do
  let _ ← visibility
  word "static"
  let _ ← word? "mut"
  let _ ← name
  if ← op? "=" then anyExpr g
  else
    op ":"
    let _ ← g.type true
    optionalValue g
  op ";"

/-- A constant. -/
def constItem : Parser Unit := do
  let _ ← visibility
  word "const"
  constRest g

/-! ## Modules and foreign items -/

/-- A module. -/
def moduleItem : Parser Unit := do
  let _ ← visibility
  let _ ← word? "unsafe"
  word "mod"
  if !(← word? "try") then
    let _ ← name
  if !(← op? ";") then
    let _ ← members g do
      let _ ← outerAttributes g
      g.item

/-- A crate that is named. -/
def externCrate : Parser Unit := do
  let _ ← visibility
  word "extern"
  word "crate"
  if !(← word? "self") then
    let _ ← name
  if ← word? "as" then
    let _ ← nameOrBlank
  op ";"

/-- A block of foreign items. -/
def foreignBlock : Parser Unit := do
  let _ ← visibility
  let _ ← word? "unsafe"
  require (← sees (atWord "extern"))
  abi
  let _ ← members g (foreignMember g)

/-! ## Structures, enumerations and unions -/

/-- **A structure.** -/
def structItem : Parser Item := do
  let _ ← visibility
  word "struct"
  let pos ← here
  let n ← name
  let _ ← generics g
  let given ← whereClause g
  if !given && (← sees (atGroup .paren)) then
    unnamedFields g
    let _ ← whereClause g
    op ";"
    return .struct ⟨n, pos, none⟩
  else if ← sees (atGroup .brace) then
    return .struct ⟨n, pos, some (← namedFields g)⟩
  else
    op ";"
    return .struct ⟨n, pos, none⟩

/-- An enumeration. -/
def enumItem : Parser Unit := do
  let _ ← visibility
  word "enum"
  let _ ← name
  let _ ← generics g
  let _ ← whereClause g
  let _ ← group .brace (commaSeparated (variant g))

/-- A union. -/
def unionItem : Parser Unit := do
  let _ ← visibility
  word "union"
  let _ ← name
  let _ ← generics g
  let _ ← whereClause g
  let _ ← namedFields g

/-! ## Traits -/

/-- What a trait begins with, after its words. -/
def traitRest : Parser Unit := do
  optionalBounds g fun ts => atWord "where" ts || atGroup .brace ts
  let _ ← whereClause g
  let _ ← members g (traitMember g)

/-- A trait, or another name for bounds. -/
def traitItem : Parser Unit := do
  let _ ← visibility
  let _ ← word? "unsafe"
  let isAuto ← word? "auto"
  word "trait"
  let _ ← name
  let _ ← generics g
  if !isAuto && (← op? "=") then
    boundsUntil g fun ts => atWord "where" ts || atOp ";" ts
    let _ ← whereClause g
    op ";"
  else traitRest g

/-! ## Blocks of methods -/

/-- Whether generic parameters, and no type that goes through a trait, begin at
the front of a row. -/
def atGenerics (ts : List Token) : Bool :=
  let next := skip ts
  let afterNext := skip next
  atOp "<" ts && (atOneOfOps [">", "#"] next || atWord "const" next
    || ((atLifetime next || atName next)
      && (atColon afterNext || atOneOfOps [",", ">", "="] afterNext)))

/-- **A block of methods**, or an item that is none: one with a visibility, for
constants, or for something that is no trait. -/
def implItem : Parser Item := do
  let visible ← visibility
  let _ ← word? "default"
  let _ ← word? "unsafe"
  word "impl"
  let isGeneric ← if ← sees atGenerics then generics g else pure false
  let isConst ← sees fun ts =>
    atWord "const" ts || (atOp "?" ts && atWord "const" (skip ts))
  if isConst then
    let _ ← op? "?"
    word "const"
  let start ← here
  let negative ← sees fun ts => atOp "!" ts && !atGroup .brace (skip ts)
  if negative then op "!"
  let first ← g.type true
  let isTrait ← word? "for"
  if negative && !isTrait then refuseAt start
  let self ← if isTrait then g.type true else pure first
  let _ ← whereClause g
  let methods ← members g (implMember g)
  let named := match first.form with
    | .path qualified _ => !qualified
    | _ => false
  if visible || isConst || (isTrait && !named) then return .other
  return .impl ⟨isGeneric, isTrait, self.ty, methods.filterMap id⟩

/-! ## Macros -/

/-- A macro that declares its parameters by name. -/
def macroDeclaration : Parser Unit := do
  let _ ← visibility
  word "macro"
  let _ ← name
  if ← sees (atGroup .paren) then
    let _ ← rawGroup
  require (← sees (atGroup .brace))
  let _ ← rawGroup

/-! ## Items -/

/-- An item that begins with `extern`, by what follows it. -/
def externItem (next : List Token) : Parser Unit := do
  if atWord "crate" next then externCrate
  else if atGroup .brace next
      || (atText next && atGroup .brace (skip next)) then foreignBlock g
  else
    let _ ← visibility
    word "extern"
    if ← sees atText then
      let _ ← literal
    refuse

/-- An item that begins with `unsafe`, by what follows it. -/
def unsafeItem (next : List Token) : Parser Item := do
  if atWord "impl" next then implItem g
  else
    if atWord "trait" next || (atWord "auto" next && atWord "trait" (skip next))
    then traitItem g
    else if atWord "extern" next then foreignBlock g
    else if atWord "mod" next then moduleItem g
    else
      let _ ← visibility
      word "unsafe"
      refuse
    return .other

/-- The parser of an item that is not a function, by the tokens after its
visibility and whether it has one. -/
def itemAt? (visible : Bool) (ts : List Token) : Option (Parser Item) :=
  let next := skip ts
  let left (p : Parser Unit) : Option (Parser Item) :=
    some do
      p
      return .other
  if atWord "extern" ts then left (externItem g next)
  else if atWord "use" ts then left (useItem g)
  else if atWord "static" ts then left (staticItem g)
  else if atWord "const" ts then left (constItem g)
  else if atWord "unsafe" ts then some (unsafeItem g next)
  else if atWord "mod" ts then left (moduleItem g)
  else if atWord "type" ts then left (typeItem g true false)
  else if atWord "struct" ts then some (structItem g)
  else if atWord "enum" ts then left (enumItem g)
  else if atWord "union" ts && atName next then left (unionItem g)
  else if atWord "trait" ts || (atWord "auto" ts && atWord "trait" next) then
    left (traitItem g)
  else if atWord "impl" ts || (atWord "default" ts && !atOp "!" next) then
    some (implItem g)
  else if atWord "macro" ts then left macroDeclaration
  else if !visible && atMacroItem ts then left (macroItem true)
  else none

/-- **An item**, after its attributes. It is read from its visibility on. -/
def itemParser : Parser Item := do
  let before ← get
  let visible ← visibility
  if ← atSignature false then
    set before
    functionItem g
    return .other
  else
    match itemAt? g visible (← ahead) with
    | some p =>
      set before
      p
    | none => refuse

end Switchboard.Source.Grammar
