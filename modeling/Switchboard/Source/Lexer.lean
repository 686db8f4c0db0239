import Switchboard.Source.Scan
import Switchboard.Source.Token

/-!
# From text to tokens

A source is cut into lexemes from left to right. Brackets open and close
groups, which have to match. A documentation comment becomes an attribute: a
hash, an exclamation mark if it documents what it stands in, and a group that
assigns its text to `doc`.

A source that cannot be cut has one place at fault: where no lexeme begins, the
closing bracket that matches nothing, or the last bracket that stays open.
-/

namespace Switchboard.Source

open Text

/-- **A place in a text**, and the text from there on. -/
structure Cursor where
  /-- The place. -/
  pos : Pos
  /-- The text. -/
  rest : List Char

/-- The cursor a number of characters further on. -/
def Cursor.advance : Nat → Cursor → Cursor
  | 0, k => k
  | n + 1, ⟨pos, c :: rest⟩ => Cursor.advance n ⟨pos.next c, rest⟩
  | _ + 1, k => k

/-- A lexeme that is one token: its length, and the token at a place. -/
structure Leaf where
  /-- The number of characters. -/
  length : Nat
  /-- The token. -/
  token : Pos → Token

/-- The literal of so many characters at the front of a text. -/
def literalLeaf (cs : List Char) (n : Nat) (kind : LiteralKind) : Leaf :=
  ⟨n, fun pos => .literal pos (String.ofList (cs.take n)) kind⟩

/-- **The literal at the front of a text.** -/
def literal? (cs : List Char) : Option Leaf :=
  match quotedLiteral? cs with
  | some (n, text) =>
    let kind := match text with
      | some value => .text value
      | none => .other
    some (literalLeaf cs (n + nameLength (cs.drop n)) kind)
  | none =>
    match (floatDigits? cs).bind (withSuffix? cs) with
    | some n => some (literalLeaf cs n .float)
    | none =>
      ((intDigits? cs).bind (withSuffix? cs)).map fun n => literalLeaf cs n .int

/-- Whether the apostrophe before a text opens a lifetime: a name follows, and
no apostrophe or hash comes right after it. -/
def opensLifetime (rest : List Char) : Bool :=
  match identLength? rest with
  | none => false
  | some n =>
    match (rest.drop n).head? with
    | some '\x27' => false
    | some '#' => ['r', '#'].isPrefixOf rest
    | _ => true

/-- **The punctuation at the front of a text.** -/
def punct? (cs : List Char) : Option Leaf := do
  let c ← punctChar? cs
  let rest := cs.drop 1
  if c = '\x27' then
    if opensLifetime rest then some ⟨1, fun pos => .punct pos c true⟩ else none
  else
    let joined := (punctChar? rest).isSome
    some ⟨1, fun pos => .punct pos c joined⟩

/-- A name at the front of a text is made of the characters of identifiers. -/
theorem isIdentContinue_of_mem_nameLength {cs : List Char} {c : Char}
    (h : c ∈ cs.take (nameLength cs)) : isIdentContinue c = true := by
  cases cs with
  | nil => exact absurd h List.not_mem_nil
  | cons d rest =>
    rw [nameLength] at h
    split at h
    · next hstart =>
      rw [List.take_succ_cons, List.mem_cons] at h
      rcases h with rfl | h
      · exact isIdentContinue_of_isIdentStart hstart
      · rw [← List.prefix_iff_eq_take.mp (List.takeWhile_prefix isIdentContinue)] at h
        exact List.all_eq_true.mp List.all_takeWhile c h
    · exact absurd h List.not_mem_nil

/-- So is an identifier, the mark of a raw one aside. -/
theorem isIdentContinue_of_identLength? {cs : List Char} {n : Nat}
    (h : identLength? cs = some n) :
    ∀ c ∈ unmarked (String.ofList (cs.take n)).toList, isIdentContinue c = true := by
  rw [String.toList_ofList]
  unfold identLength? at h
  split at h
  · next rest =>
    dsimp only at h
    split at h
    · exact nomatch h
    · rw [← Option.some.inj h]
      exact fun c hc => isIdentContinue_of_mem_nameLength hc
  · dsimp only at h
    split at h
    · exact nomatch h
    · rw [← Option.some.inj h]
      exact fun c hc => isIdentContinue_of_mem_nameLength (mem_of_mem_unmarked hc)

/-- **The identifier at the front of a text**: its length, and the word it is. -/
def identWord? (cs : List Char) : Option (Nat × Word) :=
  match h : identLength? cs with
  | none => none
  | some n => some (n, ⟨String.ofList (cs.take n), isIdentContinue_of_identLength? h⟩)

/-- The token of the identifier at the front of a text. -/
def ident? (cs : List Char) : Option Leaf :=
  if atBrokenLiteral cs then none
  else (identWord? cs).map fun (n, word) => ⟨n, fun pos => .word pos word⟩

/-- The lexeme that stands for a token lost before. -/
def lostToken : List Char := "(/*ERROR*/)".toList

/-- The lost token at the front of a text. -/
def lost? (cs : List Char) : Option Leaf :=
  if lostToken.isPrefixOf cs then some (literalLeaf cs lostToken.length .other)
  else none

/-- **The token at the front of a text**, groups aside. -/
def leaf? (cs : List Char) : Option Leaf :=
  literal? cs <|> punct? cs <|> ident? cs <|> lost? cs

/-- A zero inside a documentation comment is escaped by two digits where an
octal digit follows. Apostrophes need no escape. -/
def docEscape : List Char → List Char
  | [] => []
  | c :: rest =>
    (if c = '\x00' ∧ rest.head?.any fun d => '0' ≤ d ∧ d ≤ '7' then
        ['\\', 'x', '0', '0']
      else escapeChar c) ++ docEscape rest

/-- **The tokens of a documentation comment**, all at its place. -/
def DocComment.tokens (d : DocComment) (pos : Pos) : List Token :=
  let text := String.ofList ('"' :: docEscape d.content ++ ['"'])
  let body := [.word pos ⟨"doc", List.all_eq_true.mp (by decide)⟩, .punct pos '=' false,
    .literal pos text (.text (String.ofList d.content))]
  .punct pos '#' false
    :: (if d.inner then [.punct pos '!' false] else [])
    ++ [.group pos pos .bracket body]

/-- A group that is still open: its bracket, and the tokens before it. -/
structure OpenGroup where
  /-- Where its bracket is. -/
  pos : Pos
  /-- Its bracket. -/
  delimiter : Delimiter
  /-- The tokens before it, the last one first. -/
  before : List Token

/-- The bracket a character opens. -/
def opening? : Char → Option Delimiter
  | '(' => some .paren
  | '[' => some .bracket
  | '\x7b' => some .brace
  | _ => none

/-- The bracket a character closes. -/
def closing? : Char → Option Delimiter
  | ')' => some .paren
  | ']' => some .bracket
  | '\x7d' => some .brace
  | _ => none

/-- The tokens of a text, after those read before, which are given from the
last one on. Every step takes a character at least. -/
def lexFrom : Nat → Cursor → List OpenGroup → List Token →
    Except Pos (List Token)
  | 0, k, _, _ => .error k.pos
  | fuel + 1, k, groups, before =>
    match blank? k.rest with
    | some n => lexFrom fuel (k.advance (max n 1)) groups before
    | none =>
      match docComment? k.rest with
      | some d =>
        lexFrom fuel (k.advance d.length) groups
          ((d.tokens k.pos).reverse ++ before)
      | none =>
        match k.rest with
        | [] =>
          match groups with
          | [] => .ok before.reverse
          | g :: _ => .error g.pos
        | c :: _ =>
          match opening? c, closing? c with
          | some d, _ =>
            if lostToken.isPrefixOf k.rest then
              match leaf? k.rest with
              | some leaf =>
                lexFrom fuel (k.advance leaf.length) groups
                  (leaf.token k.pos :: before)
              | none => .error k.pos
            else lexFrom fuel (k.advance 1) (⟨k.pos, d, before⟩ :: groups) []
          | none, some d =>
            match groups with
            | [] => .error k.pos
            | g :: groups =>
              if g.delimiter = d then
                lexFrom fuel (k.advance 1) groups
                  (.group g.pos k.pos d before.reverse :: g.before)
              else .error k.pos
          | none, none =>
            match leaf? k.rest with
            | some leaf =>
              lexFrom fuel (k.advance leaf.length) groups
                (leaf.token k.pos :: before)
            | none => .error k.pos

/-- **The tokens of a text.** A byte order mark before it is no part of it. -/
def lex (cs : List Char) : Except Pos (List Token) :=
  let k : Cursor := match cs with
    | '\ufeff' :: rest => ⟨Pos.start.next '\ufeff', rest⟩
    | cs => ⟨.start, cs⟩
  lexFrom (cs.length + 2) k [] []

/-- A text without the blanks before it. -/
def dropBlanks : Nat → List Char → List Char
  | 0, cs => cs
  | fuel + 1, cs =>
    match blank? cs with
    | some n => dropBlanks fuel (cs.drop (max n 1))
    | none => cs

/-- **A source file without what is not source**: a byte order mark, and a
first line that names an interpreter. -/
def sourceText (cs : List Char) : List Char :=
  let cs := match cs with
    | '\ufeff' :: rest => rest
    | cs => cs
  match cs with
  | '#' :: '!' :: rest =>
    match dropBlanks rest.length rest with
    | '[' :: _ => cs
    | _ => cs.dropWhile (· ≠ '\n')
  | cs => cs

/-- **The tokens of a source file.** -/
def fileTokens (source : String) : Except Pos (List Token) :=
  lex (sourceText source.toList)

end Switchboard.Source
