import Switchboard.Text.Decimal
import Switchboard.Text.Printable

/-!
# String literals

A string literal stands between double quotes. Writing one escapes the quote,
the backslash, the common controls by a letter, and every other character
without a glyph of its own by its code point in braces. Reading one knows a
few more escapes: two hexadecimal digits for an ASCII character, an escaped
apostrophe, and a backslash before a line break, which drops the break and the
blanks that follow. A line break written raw reads as a line feed.
-/

namespace Switchboard.Text

/-- The escape by code point, in lower-case hexadecimal without padding. -/
def escapeCodePoint (c : Char) : List Char :=
  ['\\', 'u', '\x7b'] ++ Nat.toDigits 16 c.toNat ++ ['\x7d']

/-- **How a character is written inside a literal.** -/
def escapeChar (c : Char) : List Char :=
  if c = '"' then ['\\', '"']
  else if c = '\\' then ['\\', '\\']
  else if c = '\n' then ['\\', 'n']
  else if c = '\r' then ['\\', 'r']
  else if c = '\t' then ['\\', 't']
  else if c = '\x00' then ['\\', '0']
  else if isPrintable c then [c]
  else escapeCodePoint c

/-- **A text as a string literal.** -/
def quote (s : String) : String :=
  String.ofList ('"' :: s.toList.flatMap escapeChar ++ ['"'])

/-- A text as a string literal that also escapes apostrophes, as file paths
are shown. -/
def quotePath (s : String) : String :=
  let escape (c : Char) : List Char :=
    if c = '\x27' then ['\\', '\x27'] else escapeChar c
  String.ofList ('"' :: s.toList.flatMap escape ++ ['"'])

/-- The character of a code point, if there is one. -/
def charOfNat? (n : Nat) : Option Char :=
  if n.isValidChar then some (Char.ofNat n) else none

/-- **The code point of an escape in braces**, read after its opening brace:
one to six hexadecimal digits, underscores allowed after the first. The count
of characters up to and with the closing brace is returned along. -/
def readCodePoint (value digits count : Nat) : List Char → Option (Char × Nat)
  | [] => none
  | c :: rest =>
    if c = '\x7d' then
      if digits = 0 then none
      else (charOfNat? value).map fun ch => (ch, count + 1)
    else if c = '_' then
      if digits = 0 then none else readCodePoint value digits (count + 1) rest
    else match hexDigit? c with
      | none => none
      | some d =>
        if digits = 6 then none
        else readCodePoint (value * 16 + d) (digits + 1) (count + 1) rest

/-- Two hexadecimal digits. -/
def hexPair? (high low : Char) : Option Nat := do
  return (← hexDigit? high) * 16 + (← hexDigit? low)

/-- The character an escape letter stands for. -/
def escapeLetter? : Char → Option Char
  | 'n' => some '\n'
  | 'r' => some '\r'
  | 't' => some '\t'
  | '\\' => some '\\'
  | '0' => some '\x00'
  | '\x27' => some '\x27'
  | '"' => some '"'
  | _ => none

/-- **The blanks dropped after a backslash that ends its line.** `some n` when
`n` characters are dropped and a further one follows; a carriage return has to
stand before a line feed. -/
def continuation (count : Nat) : List Char → Option Nat
  | [] => none
  | '\r' :: '\n' :: rest => continuation (count + 2) rest
  | c :: rest =>
    if c = ' ' ∨ c = '\t' ∨ c = '\n' then continuation (count + 1) rest
    else if c = '\r' then none
    else some count

/-- One unit of a literal: how many characters it takes, and the text it
stands for. The closing quote is `close`. -/
inductive LiteralUnit where
  /-- The closing quote. -/
  | close
  /-- A character or an escape of `count` characters that stands for `text`. -/
  | text (count : Nat) (text : List Char)

/-- **The unit a literal goes on with**, or nothing where no literal goes on
so. -/
def literalUnit? : List Char → Option LiteralUnit
  | '"' :: _ => some .close
  | '\r' :: '\n' :: _ => some (.text 2 ['\n'])
  | '\\' :: 'x' :: high :: low :: _ => do
    let n ← hexPair? high low
    if n < 128 then return .text 4 [Char.ofNat n] else none
  | '\\' :: 'u' :: '\x7b' :: rest => do
    let (c, n) ← readCodePoint 0 0 0 rest
    return .text (n + 3) [c]
  | '\\' :: '\r' :: '\n' :: rest =>
    (continuation 0 rest).map fun n => .text (n + 3) []
  | '\\' :: '\n' :: rest =>
    (continuation 0 rest).map fun n => .text (n + 2) []
  | '\\' :: c :: _ => (escapeLetter? c).map fun ch => .text 2 [ch]
  | '\\' :: [] => none
  | '\r' :: _ => none
  | c :: _ => some (.text 1 [c])
  | [] => none

/-- The rest of a literal after its opening quote, made of units of one sort:
how many characters it has with its closing quote, and its text. `skip`
characters belong to the unit before. -/
def readUnits (unit? : List Char → Option LiteralUnit) (skip count : Nat)
    (text : List Char) : List Char → Option (Nat × String)
  | [] => none
  | c :: rest =>
    match skip with
    | k + 1 => readUnits unit? k (count + 1) text rest
    | 0 =>
      match unit? (c :: rest) with
      | none => none
      | some .close => some (count + 1, String.ofList text.reverse)
      | some (.text n t) =>
        readUnits unit? (n - 1) (count + 1) (t.reverse ++ text) rest

/-- **The rest of a string literal** after its opening quote. -/
def readLiteral (cs : List Char) : Option (Nat × String) :=
  readUnits literalUnit? 0 0 [] cs

/-- **The text of a string literal**, where the whole of a text is one. -/
def unquote? (cs : List Char) : Option String :=
  match cs with
  | '"' :: rest =>
    match readLiteral rest with
    | some (n, text) => if n = rest.length then some text else none
    | none => none
  | _ => none

end Switchboard.Text
