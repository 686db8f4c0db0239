import Switchboard.Source.Token

/-!
# Parsing tokens

A parser reads tokens off the front of a row. It fails at the first token that
cannot be accepted, which at the end of a group is the closing bracket and at
the end of the source its very beginning. What it has read it also writes out
anew, with the spacing that the grammar gives the tokens; from this the text of
a type is taken.

Tokens left over in a group do no harm to what follows. They are remembered,
the first of them only, and reported if all else is well.
-/

namespace Switchboard.Source

/-- **Where a parser stands.** -/
structure ParserState where
  /-- The tokens still to be read. -/
  rest : List Token
  /-- The place of what ends the row. -/
  stop : Pos
  /-- What has been read, written anew, the last token first. -/
  echo : List Token
  /-- The first token left over in a group. -/
  stray : Option Pos

/-- **A parser**: it fails at a place. -/
abbrev Parser := StateT ParserState (Except Pos)

namespace Parser

/-! ## Looking ahead -/

/-- The characters of an operator at the front of a row, all but the last one
joined to the next. -/
def atChars : List Char → List Token → Bool
  | [], _ => true
  | [c], .punct _ d _ :: _ => c == d
  | c :: cs, .punct _ d joined :: rest => c == d && joined && atChars cs rest
  | _, _ => false

/-- Whether an operator stands at the front of a row. -/
def atOp (op : String) (ts : List Token) : Bool := atChars op.toList ts

/-- Whether a given word stands at the front of a row. -/
def atWord (word : String) : List Token → Bool
  | .word _ name :: _ => name.text == word
  | _ => false

/-- Whether any word stands at the front of a row. -/
def atAnyWord : List Token → Bool
  | .word _ _ :: _ => true
  | _ => false

/-- The words that are no names. -/
def keywords : List String :=
  ["_", "abstract", "as", "async", "await", "become", "box", "break", "const",
   "continue", "crate", "do", "dyn", "else", "enum", "extern", "false", "final",
   "fn", "for", "if", "impl", "in", "let", "loop", "macro", "match", "mod",
   "move", "mut", "override", "priv", "pub", "ref", "return", "Self", "self",
   "static", "struct", "super", "trait", "true", "try", "type", "typeof",
   "unsafe", "unsized", "use", "virtual", "where", "while", "yield"]

/-- Whether a word is a name. -/
def isName (word : String) : Bool := !keywords.contains word

/-- Whether a name stands at the front of a row. -/
def atName : List Token → Bool
  | .word _ name :: _ => isName name.text
  | _ => false

/-- Whether a lifetime stands at the front of a row. -/
def atLifetime : List Token → Bool
  | .punct _ '\x27' true :: .word _ _ :: _ => true
  | _ => false

/-- Whether a literal is a number. -/
def isNumber : LiteralKind → Bool
  | .int | .float => true
  | _ => false

/-- Whether a literal stands at the front of a row; a number may be
negative. -/
def atLiteral : List Token → Bool
  | .literal _ _ _ :: _ => true
  | .word _ name :: _ => name.text == "true" || name.text == "false"
  | .punct _ '-' _ :: .literal _ _ kind :: _ => isNumber kind
  | _ => false

/-- Whether a string literal stands at the front of a row. -/
def atText : List Token → Bool
  | .literal _ _ (.text _) :: _ => true
  | _ => false

/-- Whether a group stands at the front of a row. -/
def atGroup (d : Delimiter) : List Token → Bool
  | .group _ _ d' _ :: _ => d == d'
  | _ => false

/-- Whether any group stands at the front of a row. -/
def atAnyGroup : List Token → Bool
  | .group _ _ _ _ :: _ => true
  | _ => false

/-- Whether one of some words stands at the front of a row. -/
def atOneOf (words : List String) (ts : List Token) : Bool :=
  words.any fun word => atWord word ts

/-- Whether one of some operators stands at the front of a row. -/
def atOneOfOps (ops : List String) (ts : List Token) : Bool :=
  ops.any fun op => atOp op ts

/-- The row after its first token; a lifetime counts as one. -/
def skip : List Token → List Token
  | .punct _ '\x27' true :: .word _ _ :: rest => rest
  | _ :: rest => rest
  | [] => []

/-- The row after its first two tokens. -/
def skipTwo (ts : List Token) : List Token := skip (skip ts)

/-! ## Reading -/

/-- The tokens still to be read. -/
def ahead : Parser (List Token) := return (← get).rest

/-- Whether something holds of the tokens still to be read. -/
def sees (p : List Token → Bool) : Parser Bool := return p (← get).rest

/-- Whether the row has ended. -/
def atEnd : Parser Bool := sees List.isEmpty

/-- The place of the next token, or of what ends the row. -/
def here : Parser Pos := do
  let s ← get
  return match s.rest with
    | t :: _ => t.pos
    | [] => s.stop

/-- **Failure at the next token.** -/
def refuse {α : Type} : Parser α := do throw (← here)

/-- Failure at a place. -/
def refuseAt {α : Type} (pos : Pos) : Parser α := throw pos

/-- Failure at the next token unless something holds. -/
def require (b : Bool) : Parser Unit := if b then pure () else refuse

/-- Writes a token. -/
def write (t : Token) : Parser Unit :=
  modify fun s => { s with echo := t :: s.echo }

/-- Reads the first token of a row that is known to have one. -/
def advance : Parser Unit :=
  modify fun s => { s with rest := s.rest.drop 1 }

/-- Writes an operator, its characters joined. -/
def writeOp (pos : Pos) : List Char → Parser Unit
  | [] => pure ()
  | [c] => write (.punct pos c false)
  | c :: cs => do
    write (.punct pos c true)
    writeOp pos cs

/-- **Reads an operator.** -/
def op (text : String) : Parser Unit := do
  require (← sees (atOp text))
  let pos ← here
  let cs := text.toList
  modify fun s => { s with rest := s.rest.drop cs.length }
  writeOp pos cs

/-- Reads an operator if it comes next, and tells whether it did. -/
def op? (text : String) : Parser Bool := do
  if ← sees (atOp text) then
    op text
    return true
  else return false

/-- **Reads a given word.** -/
def word (text : String) : Parser Unit := do
  match ← ahead with
  | .word pos name :: _ =>
    require (name.text == text)
    write (.word pos name)
    advance
  | _ => refuse

/-- Reads a given word if it comes next, and tells whether it did. -/
def word? (text : String) : Parser Bool := do
  if ← sees (atWord text) then
    word text
    return true
  else return false

/-- Reads any word. -/
def anyWord : Parser Word := do
  match ← ahead with
  | .word pos name :: _ =>
    write (.word pos name)
    advance
    return name
  | _ => refuse

/-- **Reads a name.** -/
def name : Parser Word := do
  require (← sees atName)
  anyWord

/-- Reads a name or an underscore. -/
def nameOrBlank : Parser Word := do
  require (← sees fun ts => atName ts || atWord "_" ts)
  anyWord

/-- **Reads a lifetime.** -/
def lifetime : Parser Unit := do
  match ← ahead with
  | .punct p '\x27' true :: .word q name :: rest =>
    write (.punct p '\x27' true)
    write (.word q name)
    modify fun s => { s with rest := rest }
  | _ => refuse

/-- Reads a lifetime if one comes next. -/
def lifetime? : Parser Bool := do
  if ← sees atLifetime then
    lifetime
    return true
  else return false

/-- **Reads a literal**, and tells the text of a string. -/
def literal : Parser (Option String) := do
  match ← ahead with
  | .literal pos text kind :: _ =>
    write (.literal pos text kind)
    advance
    return match kind with
      | .text value => some value
      | _ => none
  | .word pos name :: _ =>
    require (name.text == "true" || name.text == "false")
    write (.word pos name)
    advance
    return none
  | .punct p '-' _ :: .literal q text kind :: rest =>
    require (isNumber kind)
    write (.punct p '-' false)
    write (.literal q text kind)
    modify fun s => { s with rest := rest }
    return none
  | _ => refuse

/-- **Reads a group** by a parser of what is in it. -/
def group {α : Type} (d : Delimiter) (inside : Parser α) : Parser α := do
  match ← ahead with
  | .group opening closing d' body :: rest =>
    require (d == d')
    let outer ← get
    set { outer with rest := body, stop := closing, echo := [] }
    let a ← inside
    let inner ← get
    let left := inner.rest.head?.map Token.pos
    let stray := match inner.stray with
      | some pos => some pos
      | none => left
    set { outer with
          rest := rest
          echo := .group opening closing d inner.echo.reverse :: outer.echo
          stray := stray }
    return a
  | _ => refuse

/-- Reads a group as it is, and tells what was in it and its brackets. -/
def rawGroup : Parser (Delimiter × List Token) := do
  match ← ahead with
  | .group opening closing d body :: _ =>
    write (.group opening closing d body)
    advance
    return (d, body)
  | _ => refuse

/-- What a parser reads, looked at without reading it. -/
def peek? {α : Type} (p : Parser α) : Parser (Option α) := do
  match p.run (← get) with
  | .ok (a, _) => return some a
  | .error _ => return none

/-- What a parser reads, if it can. -/
def attempt? {α : Type} (p : Parser α) : Parser (Option α) := do
  match p.run (← get) with
  | .ok (a, s) =>
    set s
    return some a
  | .error _ => return none

/-- Reads by a parser, and tells what it wrote. -/
def written {α : Type} (p : Parser α) : Parser (α × List Token) := do
  let before := (← get).echo
  modify fun s => { s with echo := [] }
  let a ← p
  let echo := (← get).echo
  modify fun s => { s with echo := echo ++ before }
  return (a, echo.reverse)

/-- What a step of a repetition comes to. -/
inductive Step (α : Type) where
  /-- Go on. -/
  | go (value : α)
  /-- The repetition is over. -/
  | done (value : α)

/-- Steps repeated as often as there are tokens. -/
def repeatFrom {α : Type} (step : α → Parser (Step α)) : Nat → α → Parser α
  | 0, _ => refuse
  | n + 1, a => do
    match ← step a with
    | .go a => repeatFrom step n a
    | .done a => return a

/-- **Steps repeated until one is the last**; each but that reads a token at
least. -/
def repeated {α : Type} (a : α) (step : α → Parser (Step α)) : Parser α := do
  repeatFrom step ((← ahead).length + 2) a

/-- Repeats a parser while something holds of the tokens ahead. -/
def whileSeen (p : List Token → Bool) (one : Parser Unit) : Parser Unit :=
  repeated () fun _ => do
    if ← sees p then
      one
      return .go ()
    else return .done ()

/-- **Parts between separators**, up to an end that is seen before a part or
after one; a separator may stand before the end. -/
def separated {α : Type} (separator : String) (isEnd : List Token → Bool)
    (part : Parser α) : Parser (List α) := do
  let parts ← repeated [] fun parts => do
    if ← sees isEnd then return .done parts
    let a ← part
    if ← sees isEnd then return .done (a :: parts)
    op separator
    return .go (a :: parts)
  return parts.reverse

/-- Parts between commas that fill a group. -/
def commaSeparated {α : Type} (part : Parser α) : Parser (List α) :=
  separated "," List.isEmpty part

/-- Parts between separators, up to an end seen before a part; after a part
without a separator nothing more is read. -/
def joinedBy {α : Type} (separator : String) (isEnd : List Token → Bool)
    (part : Parser α) : Parser (List α) := do
  let parts ← repeated [] fun parts => do
    if ← sees isEnd then return .done parts
    let a ← part
    if ← op? separator then return .go (a :: parts)
    else return .done (a :: parts)
  return parts.reverse

/-- Runs a parser on a whole source. -/
def runAll {α : Type} (p : Parser α) (tokens : List Token) : Except Pos α :=
  match p.run ⟨tokens, Pos.start, [], none⟩ with
  | .error pos => .error pos
  | .ok (a, s) =>
    match s.stray with
    | some pos => .error pos
    | none =>
      match s.rest with
      | [] => .ok a
      | t :: _ => .error t.pos

end Parser

end Switchboard.Source
