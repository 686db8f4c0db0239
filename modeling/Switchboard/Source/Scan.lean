import Switchboard.Text.Blank
import Switchboard.Text.Identifier
import Switchboard.Text.Quoted

/-!
# The lexemes of a source

How many characters the lexeme at the front of a text takes, for each sort of
lexeme, or nothing where none of that sort begins.

Blanks are white space and the comments that document nothing. A documentation
comment is a lexeme of its own: it begins with a third slash or a second star,
or with an exclamation mark to document what it stands in. Comments between
stars nest.
-/

namespace Switchboard.Source

open Text

/-- The name at the front of a text: how many characters it takes, zero where
none begins. -/
def nameLength : List Char → Nat
  | [] => 0
  | c :: rest =>
    if isIdentStart c then (rest.takeWhile isIdentContinue).length + 1 else 0

/-! ## Blanks and comments -/

/-- White space in a source; the marks of writing direction count. -/
def isSourceBlank (c : Char) : Bool :=
  isBlank c || c == '\u200e' || c == '\u200f'

/-- The characters of a line before its end. -/
def lineText : List Char → List Char
  | [] => []
  | '\n' :: _ => []
  | '\r' :: '\n' :: _ => []
  | c :: rest => c :: lineText rest

/-- The length of a comment between stars, given how deep it is nested so far
and how many characters it had. -/
def starCommentFrom (depth count : Nat) : List Char → Option Nat
  | '/' :: '*' :: rest => starCommentFrom (depth + 1) (count + 2) rest
  | '*' :: '/' :: rest =>
    if depth ≤ 1 then some (count + 2)
    else starCommentFrom (depth - 1) (count + 2) rest
  | _ :: rest => starCommentFrom depth (count + 1) rest
  | [] => none

/-- The length of a comment between stars. -/
def starComment? (cs : List Char) : Option Nat := starCommentFrom 0 0 cs

/-- **The length of a blank**: a character of white space, or a comment that
documents nothing. -/
def blank? (cs : List Char) : Option Nat :=
  match cs with
  | '/' :: '/' :: '!' :: _ => none
  | '/' :: '/' :: '/' :: '/' :: _ => some (lineText cs).length
  | '/' :: '/' :: '/' :: _ => none
  | '/' :: '/' :: _ => some (lineText cs).length
  | '/' :: '*' :: '*' :: '/' :: _ => some 4
  | '/' :: '*' :: '!' :: _ => none
  | '/' :: '*' :: '*' :: '*' :: _ => starComment? cs
  | '/' :: '*' :: '*' :: _ => none
  | '/' :: '*' :: _ => starComment? cs
  | c :: _ => if isSourceBlank c then some 1 else none
  | [] => none

/-- **A documentation comment.** -/
structure DocComment where
  /-- Its length. -/
  length : Nat
  /-- What it says. -/
  content : List Char
  /-- Whether it documents what it stands in. -/
  inner : Bool

/-- Whether every carriage return is followed by a line feed. -/
def returnsPaired : List Char → Bool
  | [] => true
  | '\r' :: '\n' :: rest => returnsPaired rest
  | '\r' :: _ => false
  | _ :: rest => returnsPaired rest

/-- The documentation comment of a line, after three characters. -/
def lineDoc (inner : Bool) (rest : List Char) : DocComment :=
  let content := lineText rest
  ⟨content.length + 3, content, inner⟩

/-- The documentation comment between stars, of which three characters open
and two close it. -/
def starDoc? (inner : Bool) (cs : List Char) : Option DocComment :=
  (starComment? cs).map fun n => ⟨n, (cs.drop 3).take (n - 5), inner⟩

/-- **The documentation comment at the front of a text.** One with a carriage
return on its own is none. -/
def docComment? (cs : List Char) : Option DocComment :=
  let found : Option DocComment := match cs with
    | '/' :: '/' :: '!' :: rest => some (lineDoc true rest)
    | '/' :: '*' :: '!' :: _ => starDoc? true cs
    | '/' :: '/' :: '/' :: '/' :: _ => none
    | '/' :: '/' :: '/' :: rest => some (lineDoc false rest)
    | '/' :: '*' :: '*' :: '*' :: _ => none
    | '/' :: '*' :: '*' :: _ => starDoc? false cs
    | _ => none
  found.filter fun d => returnsPaired d.content

/-! ## Quoted literals -/

/-- A literal: its length without a suffix, and the text it stands for if it
is a string. -/
abbrev Scanned := Nat × Option String

/-- The length of an escape in a character, byte or string literal that stands
for a byte: its backslash, then two hexadecimal digits or a letter. -/
def byteEscape? : List Char → Option Nat
  | '\\' :: 'x' :: h :: l :: _ => (hexPair? h l).map fun _ => 4
  | '\\' :: c :: _ => (escapeLetter? c).map fun _ => 2
  | _ => none

/-- The unit a byte string goes on with. -/
def byteUnit? : List Char → Option LiteralUnit
  | '"' :: _ => some .close
  | '\r' :: '\n' :: _ => some (.text 2 [])
  | '\\' :: '\r' :: '\n' :: rest =>
    (continuation 0 rest).map fun n => .text (n + 3) []
  | '\\' :: '\n' :: rest =>
    (continuation 0 rest).map fun n => .text (n + 2) []
  | '\\' :: rest => (byteEscape? ('\\' :: rest)).map fun n => .text n []
  | '\r' :: _ => none
  | c :: _ => if c.toNat < 128 then some (.text 1 []) else none
  | [] => none

/-- The unit a string that ends in a zero byte goes on with; it holds no zero
character. -/
def zeroEndedUnit? : List Char → Option LiteralUnit
  | '"' :: _ => some .close
  | '\r' :: '\n' :: _ => some (.text 2 [])
  | '\\' :: '\r' :: '\n' :: rest =>
    (continuation 0 rest).map fun n => .text (n + 3) []
  | '\\' :: '\n' :: rest =>
    (continuation 0 rest).map fun n => .text (n + 2) []
  | '\\' :: 'x' :: h :: l :: _ => do
    let n ← hexPair? h l
    if n = 0 then none else some (.text 4 [])
  | '\\' :: 'u' :: '\x7b' :: rest => do
    let (c, n) ← readCodePoint 0 0 0 rest
    if c.toNat = 0 then none else some (.text (n + 3) [])
  | '\\' :: '0' :: _ => none
  | '\\' :: c :: _ => (escapeLetter? c).map fun _ => .text 2 []
  | '\\' :: [] => none
  | '\r' :: _ => none
  | c :: _ => if c.toNat = 0 then none else some (.text 1 [])
  | [] => none

/-- The content of a raw literal up to the quote that so many hashes follow;
`allowed` tells the characters it may hold. -/
def rawContent? (hashes : Nat) (allowed : Char → Bool) :
    List Char → Option (List Char)
  | [] => none
  | '"' :: rest =>
    if (rest.takeWhile (· == '#')).length < hashes then
      (rawContent? hashes allowed rest).map ('"' :: ·)
    else some []
  | '\r' :: '\n' :: rest =>
    (rawContent? hashes allowed rest).map fun t => '\r' :: '\n' :: t
  | '\r' :: _ => none
  | c :: rest =>
    if allowed c then (rawContent? hashes allowed rest).map (c :: ·) else none

/-- **A raw literal**, read after the letters before its hashes. -/
def rawLiteral? (allowed : Char → Bool) (cs : List Char) : Option Scanned :=
  let hashes := (cs.takeWhile (· == '#')).length
  match cs.drop hashes with
  | '"' :: rest =>
    if 255 < hashes then none
    else (rawContent? hashes allowed rest).map fun content =>
      (2 * hashes + 2 + content.length, some (String.ofList content))
  | _ => none

/-- The length of what stands in a character literal. -/
def charUnit? : List Char → Option Nat
  | '\\' :: 'u' :: '\x7b' :: rest =>
    (readCodePoint 0 0 0 rest).map fun (_, n) => n + 3
  | '\\' :: 'x' :: h :: l :: _ => do
    if (← hexPair? h l) < 128 then some 4 else none
  | '\\' :: rest => byteEscape? ('\\' :: rest)
  | _ :: _ => some 1
  | [] => none

/-- The length of what stands in a byte literal. -/
def byteCharUnit? : List Char → Option Nat
  | '\\' :: rest => byteEscape? ('\\' :: rest)
  | c :: _ => if c.toNat < 128 then some 1 else none
  | [] => none

/-- The length of a literal between apostrophes, read after the first one. -/
def apostropheLiteral? (unit? : List Char → Option Nat) (cs : List Char) :
    Option Nat := do
  let n ← unit? cs
  if (cs.drop n).head? = some '\x27' then some (n + 1) else none

/-- **A quoted literal**: its length without a suffix, and its text if it is a
string. -/
def quotedLiteral? (cs : List Char) : Option Scanned :=
  let textless (n : Nat) (s : Option Scanned) : Option Scanned :=
    s.map fun (m, _) => (n + m, none)
  let units (unit? : List Char → Option LiteralUnit) (rest : List Char) :
      Option Scanned :=
    (readUnits unit? 0 0 [] rest).map fun (n, _) => (n, none)
  match cs with
  | '"' :: rest => (readLiteral rest).map fun (n, text) => (n + 1, some text)
  | 'r' :: rest =>
    (rawLiteral? (fun _ => true) rest).map fun (n, text) => (n + 1, text)
  | 'b' :: '"' :: rest => textless 2 (units byteUnit? rest)
  | 'b' :: 'r' :: rest => textless 2 (rawLiteral? (·.toNat < 128) rest)
  | 'c' :: '"' :: rest => textless 2 (units zeroEndedUnit? rest)
  | 'c' :: 'r' :: rest => textless 2 (rawLiteral? (·.toNat ≠ 0) rest)
  | 'b' :: '\x27' :: rest =>
    (apostropheLiteral? byteCharUnit? rest).map fun n => (n + 2, none)
  | '\x27' :: rest =>
    (apostropheLiteral? charUnit? rest).map fun n => (n + 1, none)
  | _ => none

/-! ## Numbers -/

/-- Whether a character is a decimal digit or an underscore. -/
def isDigitOrGap (c : Char) : Bool := c.isDigit || c == '_'

/-- The length of the exponent of a number after its `e`, if there is one: a
sign, gaps before and after it, and digits. -/
def exponentLength? (signed valued : Bool) (count : Nat) :
    List Char → Option Nat
  | [] => if valued then some count else none
  | c :: rest =>
    if c = '+' ∨ c = '-' then
      if valued then some count
      else if signed then none
      else exponentLength? true valued (count + 1) rest
    else if c.isDigit then exponentLength? signed true (count + 1) rest
    else if c = '_' then exponentLength? signed valued (count + 1) rest
    else if valued then some count else none

/-- The length of the digits of a number with a fraction or an exponent. A
point that begins a range or is followed by a name begins no fraction. -/
def floatDigits? (cs : List Char) : Option Nat :=
  if !(cs.head?.any Char.isDigit) then none
  else
    let whole := (cs.takeWhile isDigitOrGap).length
    match cs.drop whole with
    | '.' :: rest =>
      if rest.head?.any fun c => c == '.' || isIdentStart c then none
      else
        let count := whole + 1 + (rest.takeWhile isDigitOrGap).length
        match cs.drop count with
        | c :: after =>
          if c = 'e' ∨ c = 'E' then
            match exponentLength? false false 0 after with
            | some n => some (count + 1 + n)
            | none => some count
          else some count
        | [] => some count
    | c :: after =>
      if c = 'e' ∨ c = 'E' then
        (exponentLength? false false 0 after).map fun n => whole + 1 + n
      else none
    | [] => none

/-- Digits of a base at the front of a text, gaps included: how many
characters they take and whether a digit is among them. A decimal digit outside
the base spoils the number; a letter outside of it ends the digits. -/
def digitsOf? (base : Nat) (some? : Bool) (count : Nat) :
    List Char → Option (Nat × Bool)
  | [] => some (count, some?)
  | c :: rest =>
    if c = '_' then
      if !some? ∧ base = 10 then none else digitsOf? base some? (count + 1) rest
    else match hexDigit? c with
      | none => some (count, some?)
      | some d =>
        if d < base then digitsOf? base true (count + 1) rest
        else if c.isDigit then none
        else some (count, some?)

/-- The length of the digits of an integer, with the mark of its base. -/
def intDigits? (cs : List Char) : Option Nat :=
  let (base, mark, rest) : Nat × Nat × List Char := match cs with
    | '0' :: 'x' :: rest => (16, 2, rest)
    | '0' :: 'o' :: rest => (8, 2, rest)
    | '0' :: 'b' :: rest => (2, 2, rest)
    | rest => (10, 0, rest)
  match digitsOf? base false 0 rest with
  | some (n, true) => some (mark + n)
  | _ => none

/-- The length of a number with the suffix after its digits; a character that
goes on with a name after it spoils it. -/
def withSuffix? (cs : List Char) (digits : Nat) : Option Nat :=
  let n := digits + nameLength (cs.drop digits)
  if (cs.drop n).head?.any isIdentContinue then none else some n

/-! ## Punctuation and names -/

/-- Whether a comment begins at the front of a text. -/
def atComment : List Char → Bool
  | '/' :: '/' :: _ => true
  | '/' :: '*' :: _ => true
  | _ => false

/-- The punctuation character at the front of a text. -/
def punctChar? (cs : List Char) : Option Char :=
  if atComment cs then none
  else match cs with
    | c :: _ =>
      if "~!@#$%^&*-=+|;:,<.>/?\x27".toList.contains c then some c else none
    | [] => none

/-- The length of an identifier, raw or not. A few words cannot be raw. -/
def identLength? (cs : List Char) : Option Nat :=
  match cs with
  | 'r' :: '#' :: rest =>
    let n := nameLength rest
    let name := String.ofList (rest.take n)
    if n = 0 ∨ ["_", "super", "self", "Self", "crate"].contains name then none
    else some (n + 2)
  | cs =>
    let n := nameLength cs
    if n = 0 then none else some n

/-- Whether a text begins like a quoted literal that failed to be one, so that
no identifier can begin there. -/
def atBrokenLiteral (cs : List Char) : Bool :=
  ["r\"", "r#\"", "r##", "b\"", "b\x27", "br\"", "br#", "c\"", "cr\"",
    "cr#"].any fun opening => opening.toList.isPrefixOf cs

end Switchboard.Source
