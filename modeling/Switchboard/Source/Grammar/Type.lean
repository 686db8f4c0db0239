import Switchboard.Source.Grammar.Basic

/-!
# Paths and types

A segment of a path may have arguments between angle brackets, which in an
expression a double colon comes before. Arguments are written out with the
lifetimes first. Arguments in round brackets belong to the path of a bound
alone.
-/

namespace Switchboard.Source.Grammar

open Switchboard.Source.Parser

variable (g : Grammar)

/-! ## Constants as arguments -/

/-- A constant as an argument: a literal, a name or a block. -/
def constArgument : Parser Unit := do
  if ← sees atLiteral then let _ ← literal
  else if ← sees atName then let _ ← name
  else let _ ← blockWithAttributes g

/-- The bounds of a lifetime, after the colon. -/
def lifetimeBounds (isEnd : List Token → Bool) : Parser Unit := do
  let _ ← joinedBy "+" isEnd lifetime

/-! ## Segments and paths -/

/-- An argument, how it is written, and whether a comma follows it. -/
structure Argument where
  /-- Its form. -/
  form : ArgumentForm
  /-- Its tokens. -/
  tokens : List Token
  /-- Whether a comma follows it. -/
  comma : Bool

/-- Whether an argument is a lifetime. -/
def Argument.isLifetime (a : Argument) : Bool :=
  match a.form with
  | .lifetime => true
  | _ => false

/-- A comma. -/
def comma : Token := .punct Pos.start ',' false

/-- The tokens of arguments, a comma put between those that lack one. -/
def argumentTokens (separated : Bool) : List Argument → List Token
  | [] => []
  | a :: rest =>
    (if separated then [] else [comma]) ++ a.tokens
      ++ (if a.comma then [comma] else []) ++ argumentTokens a.comma rest

/-- The tokens of arguments, the lifetimes first. -/
def orderedTokens (arguments : List Argument) : List Token :=
  let lifetimes := arguments.filter Argument.isLifetime
  let others := arguments.filter fun a => !a.isLifetime
  let separated := (lifetimes.getLast?.map Argument.comma).getD true
  lifetimes.flatMap (fun a => a.tokens ++ if a.comma then [comma] else [])
    ++ argumentTokens separated others

/-- The first type among arguments. -/
def firstType (arguments : List Argument) : Option Ty :=
  arguments.findSome? fun a =>
    match a.form with
    | .type ty => some ty
    | _ => none

/-- **Arguments between angle brackets**, and the first type among them. -/
def genericArguments : Parser (Option Ty) := do
  let _ ← op? "::"
  op "<"
  let before := (← get).echo
  let arguments ← repeated [] fun arguments => do
    if ← sees (atOp ">") then return .done arguments
    let (form, tokens) ← written g.argument
    if ← sees (atOp ">") then return .done (⟨form, tokens, false⟩ :: arguments)
    op ","
    return .go (⟨form, tokens, true⟩ :: arguments)
  let arguments := arguments.reverse
  modify fun s =>
    { s with echo := (orderedTokens arguments).reverse ++ before }
  op ">"
  return firstType arguments

/-- A segment of a path: its name and its arguments. -/
def segment (inExpr : Bool) : Parser (Word × Option (Option Ty)) := do
  if ← sees (atOneOf ["super", "self", "crate", "try"]) then
    return (← anyWord, none)
  let n ← if ← sees (atWord "Self") then anyWord else name
  let hasArguments ← sees fun ts =>
    (!inExpr && atOp "<" ts && !atOp "<=" ts)
      || (atOp "::" ts && atOp "<" (skipTwo ts))
  if hasArguments then return (n, some (← genericArguments g))
  else return (n, none)

/-- The segments of a path, as long as it goes on. -/
def segments (inExpr absolute : Bool) (goesOn : List Token → Bool) :
    Parser PathInfo := do
  let (n, arguments) ← segment g inExpr
  repeated ⟨absolute, 1, n, arguments, arguments.isNone⟩ fun (p : PathInfo) => do
    if ← sees goesOn then
      op "::"
      let (n, arguments) ← segment g inExpr
      return .go ⟨absolute, p.segments + 1, n, arguments,
        p.plain && arguments.isNone⟩
    else return .done p

/-- **A path.** -/
def path (inExpr : Bool) : Parser PathInfo := do
  let absolute ← op? "::"
  segments g inExpr absolute fun ts =>
    atOp "::" ts && !atGroup .paren (skipTwo ts)

/-- **A path that may go through a trait**, and whether it does. -/
def qualifiedPath (inExpr : Bool) : Parser (Bool × PathInfo) := do
  if ← op? "<" then
    let _ ← g.type true
    if ← word? "as" then let _ ← path g false
    op ">"
    op "::"
    return (true, ← segments g inExpr false (atOp "::"))
  else return (false, ← path g inExpr)

/-! ## Bounds -/

/-- What is captured, between angle brackets. -/
def captureList : Parser Unit := do
  word "use"
  op "<"
  let _ ← separated "," (atOp ">") do
    if !(← lifetime?) then
      require (← sees fun ts => atName ts || atWord "Self" ts)
      let _ ← anyWord
  op ">"

/-- A parameter of a list between angle brackets; whether it may be left
blank. -/
def parameter (blank : Bool) : Parser Unit := do
  let _ ← outerAttributes g
  if ← lifetime? then
    if ← op? ":" then
      lifetimeBounds fun ts => ts.isEmpty || atOneOfOps [",", ">"] ts
  else if ← sees atName then
    let _ ← name
    if ← op? ":" then
      let _ ← joinedBy "+"
        (fun ts => ts.isEmpty || atOneOfOps [",", ">", "="] ts)
        (g.bound false true)
    if ← op? "=" then let _ ← g.type true
  else if ← word? "const" then
    let _ ← name
    op ":"
    let _ ← g.type true
    if ← op? "=" then constArgument g
  else if blank && (← sees (atWord "_")) then word "_"
  else refuse

/-- **Lifetimes bound in front of a part**, and whether there are any. -/
def boundLifetimes : Parser Bool := do
  if ← word? "for" then
    op "<"
    let _ ← separated "," (atOp ">") (parameter g false)
    op ">"
    return true
  else return false

/-- The type after an arrow, if there is one. -/
def returnType (allowPlus : Bool) : Parser (Option Ty) := do
  if ← op? "->" then return some (← g.type allowPlus).ty else return none

/-- The path of a bound with what may stand before it. -/
def traitBound (allowConst : Bool) : Parser Unit := do
  let lifetimes ← boundLifetimes g
  let start ← here
  let tilde ← sees fun ts => atOp "~" ts && atWord "const" (skip ts)
  if tilde then op "~"
  let isConst ← word? "const"
  if isConst && !allowConst then refuseAt start
  let maybe ← op? "?"
  if maybe && !lifetimes then let _ ← boundLifetimes g
  let p ← path g false
  if p.arguments.isNone then
    if ← sees fun ts => atGroup .paren ts
        || (atOp "::" ts && atGroup .paren (skipTwo ts)) then
      let _ ← op? "::"
      let _ ← group .paren (commaSeparated (g.type true))
      let _ ← returnType g false

/-- **A bound.** -/
def boundParser (allowCapture allowConst : Bool) : Parser BoundForm := do
  if ← lifetime? then return .lifetime
  let start ← here
  if ← sees (atWord "use") then
    captureList
    if allowCapture then return .capture else refuseAt start
  if ← sees (atGroup .paren) then group .paren (traitBound g allowConst)
  else traitBound g allowConst
  return .trait

/-- **An argument between angle brackets.** A name before an equals sign or a
colon is an associated type or constant. -/
def argumentParser : Parser ArgumentForm := do
  if ← sees fun ts => atLifetime ts && !atOp "+" (skip ts) then
    lifetime
    return .lifetime
  if ← sees fun ts => atLiteral ts || atGroup .brace ts then
    constArgument g
    return .other
  let t ← g.type true
  match t.form with
  | .path false p =>
    if p.absolute || p.segments != 1 then return .type t.ty
    if ← op? "=" then
      if ← sees fun ts => atLiteral ts || atGroup .brace ts then constArgument g
      else let _ ← g.type true
      return .other
    if ← op? ":" then
      let _ ← joinedBy "+" (atOneOfOps [",", ">"]) (g.bound false true)
      return .other
    return .type t.ty
  | _ => return .type t.ty

/-! ## Generic parameters and where clauses -/

/-- **Generic parameters**, and whether there are any. -/
def generics : Parser Bool := do
  if ← op? "<" then
    let parameters ← separated "," (atOp ">")
      (parameter g true)
    op ">"
    return !parameters.isEmpty
  else return false

/-- Whether a single colon stands at the front of a row. -/
def atColon (ts : List Token) : Bool := atOp ":" ts && !atOp "::" ts

/-- What ends a where clause. -/
def endsWhere (ts : List Token) : Bool :=
  ts.isEmpty || atGroup .brace ts || atOneOfOps [",", ";", "="] ts || atColon ts

/-- A condition of a where clause. -/
def condition : Parser Unit := do
  if ← sees fun ts => atLifetime ts && atOp ":" (skip ts) then
    lifetime
    op ":"
    lifetimeBounds fun ts =>
      ts.isEmpty || atGroup .brace ts || atOneOfOps [",", ";", ":", "="] ts
  else
    let _ ← boundLifetimes g
    let _ ← g.type true
    op ":"
    let _ ← joinedBy "+" endsWhere (boundParser g false true)

/-- **A where clause**, if there is one. -/
def whereClause : Parser Bool := do
  if ← word? "where" then
    let _ ← joinedBy "," endsWhere (condition g)
    return true
  else return false

/-! ## Types -/

/-- Whether a bound begins at the front of a row. -/
def atBound (ts : List Token) : Bool :=
  atAnyWord ts || atOneOfOps ["::", "?"] ts || atLifetime ts || atGroup .paren ts

/-- A row of bounds. -/
def boundRow (allowPlus allowCapture : Bool) : Parser (List BoundForm) :=
  repeated [] fun forms => do
    let form ← boundParser g allowCapture true
    if !(allowPlus && (← sees (atOp "+"))) then return .done (form :: forms)
    op "+"
    if ← sees fun ts => atBound ts || atOp "~" ts then
      return .go (form :: forms)
    else return .done (form :: forms)

/-- A row of bounds with a trait among them, else the fault is at a place. -/
def boundRowWithTrait (start : Pos) (allowPlus allowCapture : Bool) :
    Parser Nat := do
  let forms ← boundRow g allowPlus allowCapture
  if forms.contains .trait then return forms.length else refuseAt start

/-- The bounds that follow the first one, each after a plus sign, and their
number. -/
def moreBounds : Parser Nat :=
  repeated 0 fun n => do
    if ← op? "+" then
      let _ ← boundParser g false false
      return .go (n + 1)
    else return .done n

/-- What stood in the round brackets of a type. -/
inductive ParenForm where
  /-- Types of a tuple, or a row of bounds. -/
  | closed
  /-- A bound that more may be joined to. -/
  | openBound
  /-- A type alone. -/
  | alone (t : TypeRead)

/-- What stands in the round brackets of a type. -/
def parenBody : Parser ParenForm := do
  if ← atEnd then return .closed
  let start ← here
  if ← sees atLifetime then
    let _ ← boundRowWithTrait g start true false
    return .closed
  if ← sees (atOp "?") then
    traitBound g false
    return .openBound
  let t ← g.type true
  if ← op? "," then
    let _ ← commaSeparated (g.type true)
    return .closed
  return .alone t

/-- A type in round brackets. -/
def parenType (allowPlus : Bool) : Parser TypeForm := do
  match ← group .paren (parenBody g) with
  | .closed => return .other
  | .openBound => return .bounds true ((← moreBounds g) == 0)
  | .alone t =>
    if allowPlus && t.form.isBound && (← sees (atOp "+")) then
      return .bounds true ((← moreBounds g) == 0)
    else return .other

/-- The name of a foreign interface, if one is given. -/
def abi : Parser Unit := do
  if ← word? "extern" then
    if ← sees atText then let _ ← literal

/-- The dots that end the parameters of a function type. -/
def atDots (ts : List Token) : Bool :=
  atOp "..." ts || ((atName ts || atWord "_" ts) && atOp ":" (skip ts)
    && atOp "..." (skipTwo ts))

/-- A parameter of a function type. -/
def functionTypeParameter (first : Bool) : Parser Unit := do
  let _ ← outerAttributes g
  let mutSelf ← sees fun ts =>
    first && atWord "mut" ts && atWord "self" (skip ts)
  if mutSelf then word "mut"
  let named ← sees fun ts =>
    (atName ts || atWord "_" ts || (first && atWord "self" ts))
      && atColon (skip ts)
  if named then
    let _ ← anyWord
    op ":"
  if mutSelf && !named then word "self" else let _ ← g.type true

/-- The parameters of a function type. -/
def functionTypeParameters : Parser Unit := do
  let _ ← repeated true fun first => do
    if ← atEnd then return .done first
    let _ ← outerAttributes g
    if ← sees atDots then
      if !(← sees (atOp "...")) then
        let _ ← anyWord
        op ":"
      op "..."
      let _ ← op? ","
      return .done first
    functionTypeParameter g first
    if ← atEnd then return .done first
    op ","
    return .go false

/-- A function type, after the lifetimes bound in front of it. -/
def functionType : Parser Unit := do
  let _ ← word? "unsafe"
  abi
  word "fn"
  group .paren (functionTypeParameters g)
  let _ ← returnType g false

/-- A type that begins with a path. -/
def pathType (lifetimes allowPlus : Bool) : Parser TypeForm := do
  let (qualified, p) ← qualifiedPath g false
  if qualified then return .path true p
  if p.plain && (← sees fun ts => atOp "!" ts && !atOp "!=" ts) then
    op "!"
    let _ ← rawGroup
    return .other
  if lifetimes || (allowPlus && (← sees (atOp "+"))) then
    let rest ← repeated 0 fun n => do
      if allowPlus && (← op? "+") then
        if ← sees atBound then
          let _ ← boundParser g false false
          return .go (n + 1)
        else return .done (n + 1)
      else return .done n
    return .bounds true (rest == 0)
  return .path false p

/-- The form of a type. -/
def typeForm (allowPlus : Bool) : Parser TypeForm := do
  let lifetimes ← boundLifetimes g
  if lifetimes then
    require (← sees fun ts =>
      atName ts || atOneOf (["fn", "unsafe", "extern"] ++ pathWords) ts)
  let ts ← ahead
  let start ← here
  if atGroup .paren ts then parenType g allowPlus
  else if atOneOf ["fn", "unsafe", "extern"] ts then
    functionType g
    return .other
  else if atPath ts || atOp "<" ts then pathType g lifetimes allowPlus
  else if atWord "dyn" ts then
    word "dyn"
    let _ ← op? "*"
    let n ← boundRowWithTrait g start allowPlus false
    return .bounds false (n == 1)
  else if atGroup .bracket ts then
    group .bracket do
      let _ ← g.type true
      if ← op? ";" then let _ ← g.expr true
    return .other
  else if atOp "*" ts then
    op "*"
    if !(← word? "const") then word "mut"
    let _ ← g.type false
    return .other
  else if atOp "&" ts then
    op "&"
    let _ ← lifetime?
    let mutable ← word? "mut"
    return .reference mutable (← g.type false).ty
  else if atOp "!" ts then
    op "!"
    return .other
  else if atWord "impl" ts then
    word "impl"
    let _ ← boundRowWithTrait g start allowPlus true
    return .other
  else if atWord "_" ts then
    word "_"
    return .other
  else if atLifetime ts then
    let n ← boundRowWithTrait g start true false
    return .bounds true (n == 1)
  else refuse

/-- **A type.** -/
def typeParser (allowPlus : Bool) : Parser TypeRead := do
  let (form, tokens) ← written (typeForm g allowPlus)
  return ⟨form, Token.rowText tokens⟩

end Switchboard.Source.Grammar
