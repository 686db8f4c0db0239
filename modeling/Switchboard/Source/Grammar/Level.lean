import Switchboard.Source.Grammar.Item

/-!
# The grammar of a source file

The grammar of a level is made over that of the level below, and a file is
parsed at a level that its tokens cannot use up: between one level and the next
but one a token is read.
-/

namespace Switchboard.Source

/-- The parsers over a grammar. -/
def Grammar.above (g : Grammar) : Grammar where
  type := Grammar.typeParser g
  bound := Grammar.boundParser g
  argument := Grammar.argumentParser g
  expr := Grammar.exprParser g
  leading := Grammar.leadingParser g
  operand := Grammar.operandParser g
  climb := Grammar.climbParser g
  pattern := Grammar.patternParser g
  statements := Grammar.statementsParser g
  item := Grammar.itemParser g
  useTree := Grammar.useTreeParser g

/-- **The grammar of a level.** -/
def Grammar.level (n : Nat) : Grammar := n.repeat Grammar.above Grammar.closed

/-- The items of a file, after its attributes. -/
def fileParser (g : Grammar) : Parser (List Item) := do
  let _ ← Grammar.innerAttributes g
  let items ← Parser.repeated [] fun items => do
    if ← Parser.atEnd then return .done items
    let _ ← Grammar.outerAttributes g
    return .go ((← g.item) :: items)
  return items.reverse

/-- **The items of a source file**, or the place where it is no source file. -/
def itemsOf (tokens : List Token) : Except Pos (List Item) :=
  Parser.runAll (fileParser (Grammar.level (2 * Token.countAll tokens + 10)))
    tokens

end Switchboard.Source
