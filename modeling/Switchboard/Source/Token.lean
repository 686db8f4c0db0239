import Switchboard.Text.Identifier

/-!
# Source tokens

The tokens of a source are identifiers, punctuation characters, literals, and
groups of tokens between matching brackets. Each is placed by the line and the
column it begins at; a group also knows where it ends. An identifier carries that
it is made of the characters of identifiers, so that wherever its text ends up,
it is told apart from what stands around it.

A punctuation character is joined to the next token when another punctuation
character follows it at once. Tokens are shown with one space between them,
except after a joined character and inside round and square brackets.
-/

namespace Switchboard.Source

/-- **A place in a source**, both parts counted from one. -/
structure Pos where
  /-- The line. -/
  line : Nat
  /-- The column, in characters. -/
  column : Nat
deriving DecidableEq, Repr

/-- Where a source begins. -/
def Pos.start : Pos := ⟨1, 1⟩

/-- The place after a character. -/
def Pos.next (p : Pos) (c : Char) : Pos :=
  if c = '\n' then ⟨p.line + 1, 1⟩ else ⟨p.line, p.column + 1⟩

/-- The brackets around a group. -/
inductive Delimiter where
  /-- Round brackets. -/
  | paren
  /-- Square brackets. -/
  | bracket
  /-- Braces. -/
  | brace
deriving DecidableEq, Repr

/-- The kinds of literals told apart. -/
inductive LiteralKind where
  /-- A string literal that stands for a text. -/
  | text (value : String)
  /-- An integer, with a suffix or without. -/
  | int
  /-- A number with a fraction or an exponent. -/
  | float
  /-- Any other literal. -/
  | other
deriving DecidableEq, Repr

/-- The characters of an identifier without the mark of a raw one. -/
def unmarked : List Char → List Char
  | 'r' :: '#' :: rest => rest
  | cs => cs

theorem mem_of_mem_unmarked {cs : List Char} {c : Char} (h : c ∈ unmarked cs) :
    c ∈ cs := by
  unfold unmarked at h
  split at h
  · exact List.mem_cons_of_mem _ (List.mem_cons_of_mem _ h)
  · exact h

/-- **An identifier or keyword**, with the mark of a raw one. -/
structure Word where
  /-- Its text. -/
  text : String
  /-- Its characters, the mark aside, are those of identifiers. -/
  isIdent : ∀ c ∈ unmarked text.toList, Text.isIdentContinue c = true
deriving DecidableEq, Repr

/-- **A token.** -/
inductive Token where
  /-- An identifier or keyword. -/
  | word (pos : Pos) (name : Word)
  /-- A punctuation character, and whether it is joined to the next token. -/
  | punct (pos : Pos) (c : Char) (joined : Bool)
  /-- A literal as written. -/
  | literal (pos : Pos) (text : String) (kind : LiteralKind)
  /-- A group, with the places of its brackets. -/
  | group (opening closing : Pos) (delimiter : Delimiter) (body : List Token)

namespace Token

/-- Where a token begins. -/
def pos : Token → Pos
  | word pos _ => pos
  | punct pos _ _ => pos
  | literal pos _ _ => pos
  | group opening _ _ _ => opening

/-- Whether a token is joined to the next one. -/
def joined : Token → Bool
  | punct _ _ joined => joined
  | _ => false

mutual

/-- The number of tokens in a token. -/
def count : Token → Nat
  | group _ _ _ body => countAll body + 1
  | _ => 1

/-- The number of tokens in a row. -/
def countAll : List Token → Nat
  | [] => 0
  | t :: rest => count t + countAll rest

end

mutual

/-- **How a token is shown.** -/
def text : Token → String
  | word _ name => name.text
  | punct _ c _ => String.singleton c
  | literal _ text _ => text
  | group _ _ .paren body => "(" ++ textAll false body ++ ")"
  | group _ _ .bracket body => "[" ++ textAll false body ++ "]"
  | group _ _ .brace [] => "\x7b \x7d"
  | group _ _ .brace body => "\x7b " ++ textAll false body ++ " \x7d"

/-- How a row of tokens is shown, with a space before its first one or
without. -/
def textAll (space : Bool) : List Token → String
  | [] => ""
  | t :: rest =>
    (if space then " " else "") ++ text t ++ textAll (!t.joined) rest

end

/-- **How a row of tokens is shown.** -/
def rowText (tokens : List Token) : String := textAll false tokens

end Token

end Switchboard.Source
