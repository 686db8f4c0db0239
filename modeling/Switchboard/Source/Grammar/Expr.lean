import Switchboard.Source.Grammar.Pattern

/-!
# Expressions

An operand is a first part and the calls, members and indices after it. Between
operands stand operators; they bind by rank, those of one rank to the left,
assignments to the right. Comparisons and ranges are not chained.

Where a block follows an expression, a structure literal is none. An expression
that begins a statement and ends in a block ends there, unless a member of it
is taken.
-/

namespace Switchboard.Source.Grammar

open Switchboard.Source.Parser

variable (g : Grammar)

/-! ## Operators -/

/-- **The operators and their ranks**, each before those it begins with. -/
def operators : List (String × Rank) :=
  [("+=", .assign), ("-=", .assign), ("*=", .assign), ("/=", .assign),
   ("%=", .assign), ("^=", .assign), ("&=", .assign), ("|=", .assign),
   ("<<=", .assign), (">>=", .assign), ("&&", .and), ("||", .or),
   ("<<", .shift), (">>", .shift), ("==", .compare), ("<=", .compare),
   ("!=", .compare), (">=", .compare), ("+", .sum), ("-", .sum),
   ("*", .product), ("/", .product), ("%", .product), ("^", .bitXor),
   ("&", .bitAnd), ("|", .bitOr), ("<", .compare), (">", .compare)]

/-- The operator at the front of a row, with its rank. -/
def operator? (ts : List Token) : Option (String × Rank) :=
  operators.find? fun entry => atOp entry.1 ts

/-- Whether an equals sign assigns. -/
def atAssign (ts : List Token) : Bool := atOp "=" ts && !atOp "=>" ts

/-- The rank of what stands at the front of a row. -/
def nextRank (ts : List Token) : Rank :=
  match operator? ts with
  | some (_, rank) => rank
  | none =>
    if atAssign ts then .assign
    else if atOp ".." ts then .range
    else if atWord "as" ts then .cast
    else .jump

/-- **The right side of an operator** of a rank. -/
def rightSide (allowStruct : Bool) (rank : Rank) : Parser Unit := do
  let first ← g.operand allowStruct
  let _ ← repeated first fun form => do
    let before ← ahead
    let next := nextRank before
    if rank < next || (next = rank && rank = .assign) then
      let form ← g.climb form allowStruct next
      if (← ahead).length == before.length then return .done form
      else return .go form
    else return .done form

/-- Whether a member is taken at the front of a row. -/
def atDot (ts : List Token) : Bool := atOp "." ts && !atOp ".." ts

/-- What follows a range that has no end. -/
def endsRange (allowStruct : Bool) (ts : List Token) : Bool :=
  ts.isEmpty || atDot ts || (!allowStruct && atGroup .brace ts) || atWord "as" ts
    || atOneOfOps [",", ";", "?", "=", "+", "/", "%", "^", ">", "<=", "!=", "-=",
        "*=", "&=", "|=", "<<="] ts

/-- The dots of a range and its end. -/
def rangeRest (allowStruct : Bool) : Parser Unit := do
  let closed ← rangeDots
  if closed || !(← sees (endsRange allowStruct)) then
    rightSide g allowStruct .range

/-- What may not follow a conversion. -/
def checkCast : Parser Unit := do
  require !(← sees fun ts =>
    atDot ts || atOp "?" ts || atGroup .bracket ts || atGroup .paren ts)

/-- **The operators after an operand** that bind as tightly as a rank. -/
def climbParser (first : ExprForm) (allowStruct : Bool) (base : Rank) :
    Parser ExprForm :=
  repeated first fun form => do
    if form = .range then return .done form
    let ts ← ahead
    match operator? ts with
    | some (text, rank) =>
      if rank < base then return .done form
      if rank = .compare && form = .comparison then refuse
      op text
      rightSide g allowStruct rank
      return .go (if rank = .compare then .comparison else .other)
    | none =>
      if base ≤ .assign && atAssign ts then
        op "="
        rightSide g allowStruct .assign
        return .go .other
      else if base ≤ .range && atOp ".." ts then
        rangeRest g allowStruct
        return .go .range
      else if base ≤ .cast && atWord "as" ts then
        word "as"
        let _ ← g.type false
        checkCast
        return .go .other
      else return .done form

/-- An expression where any may stand. -/
def anyExpr : Parser Unit := do
  let _ ← g.expr true

/-- An expression that a block follows. -/
def exprBeforeBlock : Parser Unit := do
  let _ ← g.expr false

/-! ## Calls, members and indices -/

/-- The indices in the digits of a number that follows a dot, and whether a dot
ends it. -/
def memberIndices? (text : String) : Option (List String × Bool) :=
  let parts := text.splitOn "."
  let trailing := parts.getLast? == some ""
  let parts := if trailing then parts.dropLast else parts
  if parts.all fun part => !part.isEmpty && isIndex part then
    some (parts, trailing)
  else none

/-- Writes indices with dots between them. -/
def writeIndices (pos : Pos) : List String → Parser Unit
  | [] => pure ()
  | [index] => write (.literal pos index .int)
  | index :: rest => do
    write (.literal pos index .int)
    write (.punct pos '.' false)
    writeIndices pos rest

/-- The arguments of a call. -/
def callArguments : Parser Unit := do
  let _ ← group .paren (commaSeparated (anyExpr g))

/-- A member after its dot, or a call of a method. -/
def memberAccess : Parser Unit := do
  if ← word? "await" then return
  if !(← member) then return
  let turbofish ← sees (atOp "::")
  if turbofish then
    let _ ← genericArguments g
  if turbofish || (← sees (atGroup .paren)) then callArguments g

/-- What follows a dot. -/
def afterDot : Parser Unit := do
  match ← ahead with
  | .literal pos text .float :: _ =>
    match memberIndices? text with
    | none => refuse
    | some (indices, trailing) =>
      advance
      writeIndices pos indices
      if trailing then
        write (.punct pos '.' false)
        memberAccess g
  | _ => memberAccess g

/-- **The calls, members and indices after a part.** -/
def trailers (first : ExprForm) : Parser ExprForm :=
  repeated first fun form => do
    let ts ← ahead
    let isRange := form = .range
    if atGroup .paren ts then
      callArguments g
      return .go .other
    else if !isRange && atDot ts then
      op "."
      afterDot g
      return .go .other
    else if atGroup .bracket ts then
      group .bracket (anyExpr g)
      return .go .other
    else if !isRange && atOp "?" ts then
      op "?"
      return .go .other
    else return .done form

/-! ## Blocks and what takes them -/

/-- Whether lifetimes are bound in front of a closure. -/
def atForBinder (ts : List Token) : Bool :=
  atWord "for" ts && atOp "<" (skip ts)
    && (atLifetime (skipTwo ts) || atOp ">" (skipTwo ts))

/-- A block that may begin with attributes. -/
def body : Parser Unit := do
  let _ ← blockWithAttributes g

/-- A choice, with all that follows it. -/
def ifExpr : Parser Unit :=
  repeated () fun _ => do
    word "if"
    exprBeforeBlock g
    block g
    if !(← word? "else") then return .done ()
    if ← sees (atWord "if") then return .go ()
    else
      block g
      return .done ()

/-- A loop without its label. -/
def loopExpr : Parser Unit := do
  let ts ← ahead
  if atWord "while" ts then
    word "while"
    exprBeforeBlock g
    body g
  else if atWord "for" ts then
    word "for"
    let _ ← alternatives g
    word "in"
    exprBeforeBlock g
    body g
  else
    word "loop"
    body g

/-- Whether a loop begins at the front of a row. -/
def atLoop (ts : List Token) : Bool := atOneOf ["while", "for", "loop"] ts

/-- A loop or a block with a label. -/
def labeled : Parser Unit := do
  lifetime
  op ":"
  let ts ← ahead
  if atLoop ts then loopExpr g
  else if atGroup .brace ts then body g
  else refuse

/-- The attributes of an expression. -/
def exprAttributes : Parser Bool :=
  return !(← outerAttributes g).isEmpty

/-- Whether an expression that ends in a block begins at the front of a row. -/
def atBlockLike (ts : List Token) : Bool :=
  atOneOf ["if", "while", "loop", "match", "unsafe"] ts
    || (atWord "for" ts && !atForBinder ts)
    || (atOneOf ["try", "const"] ts && atGroup .brace (skip ts))
    || atGroup .brace ts || atLifetime ts

/-- Whether an expression goes on after a block. -/
def goesOnAfterBlock (ts : List Token) : Bool := atDot ts || atOp "?" ts

/-! ## Parts -/

/-- The fields of a structure literal; two dots and what they are taken from end
them. -/
def structLiteral : Parser Unit :=
  group .brace <| repeated () fun _ => do
    if ← atEnd then return .done ()
    if ← sees (atOp "..") then
      op ".."
      if !(← atEnd) then anyExpr g
      return .done ()
    let _ ← outerAttributes g
    let named ← member
    if !named || (← sees (atOp ":")) then
      op ":"
      anyExpr g
    if ← atEnd then return .done ()
    op ","
    return .go ()

/-- What a macro call is, by its brackets. -/
def formOfMacro : Delimiter → ExprForm
  | .brace => .braceMacro
  | _ => .other

/-- An expression that begins with a path. -/
def pathExpr (allowStruct : Bool) : Parser ExprForm := do
  let (qualified, p) ← qualifiedPath g true
  let ts ← ahead
  if !qualified && p.plain && atBang ts then
    op "!"
    let (delimiter, _) ← rawGroup
    return formOfMacro delimiter
  if allowStruct && atGroup .brace ts then structLiteral g
  return .other

/-- A parameter of a closure. -/
def closureParameter : Parser Unit := do
  let _ ← outerAttributes g
  let _ ← g.pattern
  if ← op? ":" then
    let _ ← g.type true

/-- A closure. -/
def closure (allowStruct : Bool) : Parser Unit := do
  let _ ← boundLifetimes g
  let _ ← word? "const"
  let _ ← word? "static"
  let _ ← word? "async"
  let _ ← word? "move"
  op "|"
  let _ ← separated "," (atOp "|") (closureParameter g)
  op "|"
  if ← op? "->" then
    let _ ← g.type true
    block g
  else
    let _ ← g.expr allowStruct

/-- Whether a closure begins at the front of a row. -/
def atClosure (ts : List Token) : Bool :=
  let next := skip ts
  atOp "|" ts || atOneOf ["move", "static"] ts || atForBinder ts
    || (atWord "const" ts && !atGroup .brace next)
    || (atWord "async" ts && (atOp "|" next || atWord "move" next))

/-- A row of expressions, or one repeated. -/
def array : Parser Unit :=
  group .bracket do
    if ← atEnd then return
    anyExpr g
    if ← atEnd then return
    if ← op? ";" then anyExpr g
    else
      op ","
      let _ ← commaSeparated (anyExpr g)

/-- Whether an expression may begin at the front of a row. -/
def canBegin (ts : List Token) : Bool :=
  atAnyWord ts || atAnyGroup ts || atLiteral ts || atLifetime ts
    || (atOp "!" ts && !atOp "!=" ts)
    || (atOp "-" ts && !atOneOfOps ["-=", "->"] ts)
    || (atOp "*" ts && !atOp "*=" ts)
    || (atOp "|" ts && !atOp "|=" ts)
    || (atOp "&" ts && !atOp "&=" ts)
    || (atOp "<" ts && !atOneOfOps ["<=", "<<="] ts)
    || atOneOfOps ["..", "::", "#"] ts

/-- An expression, if one may begin with the next token. -/
def optionalExpr : Parser Unit := do
  if ← sees canBegin then anyExpr g

/-- Leaving a loop. A labelled loop may not follow without brackets. -/
def breakExpr (allowStruct : Bool) : Parser Unit := do
  word "break"
  let start ← here
  if ← sees fun ts => atLifetime ts && atOp ":" (skip ts) then
    anyExpr g
    refuseAt start
  let _ ← lifetime?
  if allowStruct || !(← sees (atGroup .brace)) then optionalExpr g

/-- A condition that binds names. -/
def letExpr (allowStruct : Bool) : Parser Unit := do
  word "let"
  let _ ← alternatives g
  op "="
  let form ← g.operand allowStruct
  let _ ← g.climb form allowStruct .compare

/-- A case of a choice by pattern. -/
def matchArm : Parser Unit := do
  let _ ← outerAttributes g
  let _ ← alternatives g
  if ← word? "if" then anyExpr g
  op "=>"
  let form ← g.leading
  if !(← atEnd) then
    if form = .blockLike then let _ ← op? ","
    else op ","

/-- A choice by pattern. -/
def matchExpr : Parser Unit := do
  word "match"
  exprBeforeBlock g
  group .brace do
    let _ ← innerAttributes g
    whileSeen (fun ts => !ts.isEmpty) (matchArm g)

/-- An expression that ends in a block. -/
def blockLike : Parser Unit := do
  let ts ← ahead
  if atWord "if" ts then ifExpr g
  else if atLoop ts then loopExpr g
  else if atWord "match" ts then matchExpr g
  else if atWord "unsafe" ts then
    word "unsafe"
    body g
  else if atWord "try" ts then
    word "try"
    block g
  else if atWord "const" ts then constBlock g
  else if atLifetime ts then labeled g
  else body g

/-- A call of the compiler itself. -/
def builtinCall : Parser Unit := do
  word "builtin"
  op "#"
  let _ ← anyWord
  require (← sees (atGroup .paren))
  let _ ← rawGroup

/-- The first part of an operand. -/
def atom (allowStruct : Bool) : Parser ExprForm := do
  let ts ← ahead
  let next := skip ts
  let asyncBlock := atWord "async" ts && (atGroup .brace next
    || (atWord "move" next && atGroup .brace (skip next)))
  let isPath := atExprPath ts
    || (atWord "try" ts && (atOp "!" next || atOp "::" next))
  if atLiteral ts then let _ ← literal
  else if asyncBlock then
    word "async"
    let _ ← word? "move"
    block g
  else if atClosure ts then closure g allowStruct
  else if atWord "builtin" ts && atOp "#" next then builtinCall
  else if isPath then return ← pathExpr g allowStruct
  else if atGroup .paren ts then
    let _ ← group .paren (commaSeparated (anyExpr g))
  else if atWord "break" ts then breakExpr g allowStruct
  else if atWord "continue" ts then
    word "continue"
    let _ ← lifetime?
  else if atOneOf ["return", "yield"] ts then
    let _ ← anyWord
    optionalExpr g
  else if atWord "become" ts then
    word "become"
    anyExpr g
  else if atGroup .bracket ts then array g
  else if atWord "let" ts then letExpr g allowStruct
  else if atBlockLike ts then
    blockLike g
    return .blockLike
  else if atOp ".." ts then
    rangeRest g allowStruct
    return .range
  else if atWord "_" ts then word "_"
  else refuse
  return .other

/-- The sign in front of an operand. -/
def sign : Parser Unit := do
  if ← op? "&" then
    let raw ← sees fun ts =>
      atWord "raw" ts && atOneOf ["mut", "const"] (skip ts)
    if raw then
      word "raw"
      let _ ← anyWord
    else
      let _ ← word? "mut"
  else if ← op? "*" then return
  else if ← op? "!" then return
  else op "-"

/-- An operand after its attributes, which a range may not have. -/
def operandAfter (attributed allowStruct : Bool) : Parser ExprForm := do
  if ← sees (atOneOfOps ["&", "*", "!", "-"]) then
    sign
    let _ ← g.operand allowStruct
    return .other
  let start ← here
  let form ← trailers g (← atom g allowStruct)
  if attributed && form = .range then refuseAt start
  return form

/-- **An operand.** -/
def operandParser (allowStruct : Bool) : Parser ExprForm := do
  operandAfter g (← exprAttributes g) allowStruct

/-- **An expression.** -/
def exprParser (allowStruct : Bool) : Parser ExprForm := do
  climbParser g (← operandParser g allowStruct) allowStruct .jump

/-- **An expression at the beginning of a statement** or of a case: one that
ends in a block ends there. -/
def leadingParser : Parser ExprForm := do
  let attributed ← exprAttributes g
  if ← sees atBlockLike then
    blockLike g
    if !(← sees goesOnAfterBlock) then return .blockLike
    climbParser g (← trailers g .blockLike) true .jump
  else climbParser g (← operandAfter g attributed true) true .jump

end Switchboard.Source.Grammar
