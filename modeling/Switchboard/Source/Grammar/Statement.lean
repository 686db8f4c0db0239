import Switchboard.Source.Grammar.Expr

/-!
# Statements

A statement binds names, declares an item, calls a macro or is an expression.
One without a semicolon ends its block, unless it ends in braces.
-/

namespace Switchboard.Source.Grammar

open Switchboard.Source.Parser

variable (g : Grammar)

/-- A statement that binds names. What is bound may be followed by a block for
the case that the pattern does not fit, unless it ends in braces itself. -/
def letStatement : Parser Unit := do
  word "let"
  let _ ← g.pattern
  if ← op? ":" then
    let _ ← g.type true
  if ← op? "=" then
    anyExpr g
    let endsInBraces := match (← get).echo with
      | .group _ _ .brace _ :: _ => true
      | _ => false
    if !endsInBraces && (← word? "else") then block g
  op ";"

/-- Whether a static item, and no closure, begins at the front of a row. -/
def atStaticItem (ts : List Token) : Bool :=
  let next := skip ts
  let afterNext := skip next
  atWord "mut" next || (atName next
    && !(atWord "async" next && (atWord "move" afterNext || atOp "|" afterNext)))

/-- Whether a constant item, and no block or closure, begins at the front of a
row. -/
def atConstItem (ts : List Token) : Bool :=
  let next := skip ts
  !(atGroup .brace next || atOneOf ["static", "move"] next || atOp "|" next
    || (atWord "async" next && !atOneOf ["unsafe", "extern", "fn"] (skip next)))

/-- **Whether an item begins at the front of a row**, macro calls apart. -/
def atItem (ts : List Token) : Bool :=
  let next := skip ts
  atOneOf ["pub", "extern", "use", "fn", "mod", "type", "struct", "enum", "trait",
      "impl", "macro"] ts
    || (atWord "crate" ts && !atOp "::" next)
    || (atWord "static" ts && atStaticItem ts)
    || (atWord "const" ts && atConstItem ts)
    || (atWord "unsafe" ts && !atGroup .brace next)
    || (atWord "async" ts && atOneOf ["unsafe", "extern", "fn"] next)
    || (atWord "union" ts && atName next)
    || (atWord "auto" ts && atWord "trait" next)
    || (atWord "default" ts && atOneOf ["unsafe", "impl"] next)

/-- What a macro call at the beginning of a statement is. -/
inductive MacroForm where
  /-- It declares something by name. -/
  | item
  /-- It is a statement by itself. -/
  | statement
  /-- It is no macro call, or begins an expression. -/
  | other

/-- What the tokens after the path of a macro say about it. -/
def macroForm (ts : List Token) : MacroForm :=
  let next := skip ts
  if !atOp "!" ts then .other
  else if atName next || atWord "try" next then .item
  else if atGroup .brace next && !goesOnAfterBlock (skip next) then .statement
  else .other

/-- **A statement**, and whether a semicolon has yet to follow before the
next. -/
def statement : Parser Bool := do
  let _ ← outerAttributes g
  let form ← peek? do
    let _ ← modPath
    return macroForm (← ahead)
  match form with
  | some .statement =>
    let _ ← modPath
    op "!"
    let _ ← rawGroup
    let _ ← op? ";"
    return false
  | some .item =>
    let _ ← g.item
    return false
  | _ =>
    let ts ← ahead
    if atWord "let" ts then
      letStatement g
      return false
    else if atItem ts then
      let _ ← g.item
      return false
    else
      let form ← g.leading
      if ← op? ";" then return false
      return !(form = .blockLike || form = .braceMacro)

/-- **The statements of a block.** -/
def statementsParser : Parser Unit :=
  repeated () fun _ => do
    whileSeen (atOp ";") (op ";")
    if ← atEnd then return .done ()
    let unfinished ← statement g
    if ← atEnd then return .done ()
    if unfinished then refuse
    return .go ()

end Switchboard.Source.Grammar
