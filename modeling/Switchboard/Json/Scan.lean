import Switchboard.Json.Fault
import Switchboard.Json.Value

/-!
# The leaves of a JSON text

Blanks, words, strings and numbers, each read off the front of a text. What is
read in full yields its value. What nobody asks for is read for its form only:
then a surrogate escape needs no partner and a number any size.

A string is read unit by unit; a unit is a character or an escape, and a pair
of surrogate escapes is one unit. A number is read as its numeral first. Its
value is an integer when it has neither a fraction nor an exponent and fits 64
bits, and otherwise the double of its first significant digits.
-/

namespace Switchboard.Json

/-- The blanks of JSON. -/
def isJsonBlank (c : Char) : Bool :=
  c == ' ' || c == '\n' || c == '\t' || c == '\r'

/-- A text without the blanks before it. -/
def skipBlanks (cs : List Char) : List Char := cs.dropWhile isJsonBlank

/-- **The rest of a word**, whose remaining letters are given. -/
def readWord : List Char → List Char → Except Fault (List Char)
  | cs, [] => .ok cs
  | [], _ :: _ => .error ⟨.endInValue, 0⟩
  | c :: cs, w :: ws =>
    if c = w then readWord cs ws else .error (.inside .wordExpected (c :: cs))

/-! ## Strings -/

/-- **The number of a four-digit escape**, read after its `u`. -/
def hexEscape (cs : List Char) : Except Fault Nat :=
  let value := match cs with
    | a :: b :: c :: d :: _ => do
      let a ← Text.hexDigit? a
      let b ← Text.hexDigit? b
      let c ← Text.hexDigit? c
      let d ← Text.hexDigit? d
      return ((a * 16 + b) * 16 + c) * 16 + d
    | _ => none
  match value with
  | some n => .ok n
  | none =>
    if byteLength cs < 4 then .error ⟨.endInString, 0⟩
    else .error ⟨.badEscape, byteLength cs - 4⟩

/-- Whether a number is the first half of a surrogate pair. -/
def isHighSurrogate (n : Nat) : Bool := 0xd800 ≤ n && n ≤ 0xdbff

/-- Whether a number is the second half of a surrogate pair. -/
def isLowSurrogate (n : Nat) : Bool := 0xdc00 ≤ n && n ≤ 0xdfff

/-- The second half of a surrogate pair, read after the first. -/
def readLowSurrogate : List Char → Except Fault Nat
  | [] => .error ⟨.endInString, 0⟩
  | '\\' :: [] => .error ⟨.endInString, 0⟩
  | '\\' :: 'u' :: rest => do
    let n ← hexEscape rest
    if isLowSurrogate n then return n
    else .error ⟨.loneSurrogate, byteLength rest - 4⟩
  | '\\' :: rest => .error (.inside .pairCut rest)
  | rest => .error (.inside .pairCut rest)

/-- One unit of a string: the closing quote, or a character or an escape of
`count` characters that stands for `text`. -/
inductive StringUnit where
  /-- The closing quote. -/
  | close
  /-- A character or an escape. -/
  | text (count : Nat) (text : List Char)

/-- **The unit of an escape by number**, read after its `u`. -/
def numberedUnit (full : Bool) (cs : List Char) : Except Fault StringUnit := do
  let n ← hexEscape cs
  if !full then return .text 6 []
  else if isLowSurrogate n then .error ⟨.loneSurrogate, byteLength cs - 4⟩
  else if isHighSurrogate n then do
    let low ← readLowSurrogate (cs.drop 4)
    return .text 12 [Char.ofNat ((n - 0xd800) * 0x400 + (low - 0xdc00) + 0x10000)]
  else return .text 6 [Char.ofNat n]

/-- The character an escape letter stands for. -/
def escapeLetter? : Char → Option Char
  | '"' => some '"'
  | '\\' => some '\\'
  | '/' => some '/'
  | 'b' => some '\x08'
  | 'f' => some '\x0c'
  | 'n' => some '\n'
  | 'r' => some '\r'
  | 't' => some '\t'
  | _ => none

/-- **The unit a string goes on with.** A control character is no unit. -/
def stringUnit (full : Bool) : List Char → Except Fault StringUnit
  | [] => .error ⟨.endInString, 0⟩
  | '"' :: _ => .ok .close
  | '\\' :: [] => .error ⟨.endInString, 0⟩
  | '\\' :: 'u' :: rest => numberedUnit full rest
  | '\\' :: c :: rest =>
    match escapeLetter? c with
    | some ch => .ok (.text 2 [ch])
    | none => .error (.inside .badEscape (c :: rest))
  | c :: rest =>
    if c.toNat < 32 then
      .error (if full then .inside .controlInString (c :: rest)
        else .before .controlInString (c :: rest))
    else .ok (.text 1 [c])

/-- **A string read after its opening quote**: its text, and what follows its
closing quote. `skip` characters still belong to the unit before. -/
def readString (full : Bool) (skip : Nat) (text : List Char) :
    List Char → Except Fault (String × List Char)
  | [] => .error ⟨.endInString, 0⟩
  | c :: rest =>
    match skip with
    | k + 1 => readString full k text rest
    | 0 =>
      match stringUnit full (c :: rest) with
      | .error f => .error f
      | .ok .close => .ok (String.ofList text.reverse, rest)
      | .ok (.text n t) => readString full (n - 1) (t.reverse ++ text) rest

/-! ## Numbers -/

/-- **A numeral**, without its sign: the digits before the point, those after
it, and the exponent with whether it is negative. -/
structure Numeral where
  /-- The digits of the integer part. -/
  whole : List Char
  /-- The digits after the point, if there is one. -/
  fraction : Option (List Char)
  /-- The exponent, if there is one: whether it is negative, and its digits. -/
  exponent : Option (Bool × List Char)

/-- The digits at the front of a text, and what follows them. -/
def spanDigits (cs : List Char) : List Char × List Char :=
  (cs.takeWhile Char.isDigit, cs.dropWhile Char.isDigit)

/-- The integer part of a numeral: a zero alone, or digits that begin with
another one. `cut` is the cause named when the text ends too early. -/
def readWhole (cut : Cause) : List Char → Except Fault (List Char × List Char)
  | [] => .error ⟨cut, 0⟩
  | '0' :: rest =>
    if (rest.head?.any Char.isDigit) then .error (.inside .badNumber rest)
    else .ok (['0'], rest)
  | c :: rest =>
    if c.isDigit then .ok (spanDigits (c :: rest))
    else .error (.inside .badNumber (c :: rest))

/-- The digits after the point of a numeral. -/
def readFraction (cut : Cause) (cs : List Char) :
    Except Fault (List Char × List Char) :=
  match spanDigits cs with
  | ([], []) => .error ⟨cut, 0⟩
  | ([], rest) => .error (.inside .badNumber rest)
  | found => .ok found

/-- The exponent of a numeral, read after its `e`. -/
def readExponent (cut : Cause) (cs : List Char) :
    Except Fault ((Bool × List Char) × List Char) :=
  let (negative, rest) : Bool × List Char := match cs with
    | '-' :: rest => (true, rest)
    | '+' :: rest => (false, rest)
    | rest => (false, rest)
  match spanDigits rest with
  | ([], []) => .error ⟨cut, 0⟩
  | ([], rest) => .error (.inside .badNumber rest)
  | (digits, rest) => .ok ((negative, digits), rest)

/-- **A numeral and what follows it.** -/
def readNumeral (cut : Cause) (cs : List Char) :
    Except Fault (Numeral × List Char) := do
  let (whole, rest) ← readWhole cut cs
  let (fraction, rest) ← match rest with
    | '.' :: rest => do
      let (digits, rest) ← readFraction cut rest
      pure (some digits, rest)
    | rest => pure (none, rest)
  match rest with
  | 'e' :: rest | 'E' :: rest =>
    let (exponent, rest) ← readExponent cut rest
    return (⟨whole, fraction, some exponent⟩, rest)
  | rest => return (⟨whole, fraction, none⟩, rest)

/-- Digits taken onto a significand as long as it stays below `2^64`, and the
digits left over. -/
def significandFrom (n : Nat) : List Char → Nat × List Char
  | [] => (n, [])
  | c :: rest =>
    let next := n * 10 + (c.toNat - '0'.toNat)
    if next < 18446744073709551616 then significandFrom next rest
    else (n, c :: rest)

/-- The value of the digits of an exponent below `2^31`, or how many digits
follow the one that leads out of this range. -/
def exponentFrom (n : Nat) : List Char → Except Nat Nat
  | [] => .ok n
  | c :: rest =>
    let next := n * 10 + (c.toNat - '0'.toNat)
    if next < 2147483648 then exponentFrom next rest else .error rest.length

/-- An integer within its sign's range, or the double nearest to it. -/
def integerValue (negative : Bool) (n : Nat) : Option Json :=
  if !negative then some (.int n)
  else if 0 < n ∧ n ≤ 9223372036854775808 then some (.int (-n))
  else (double? true n 0).map .double

/-- **The value of a numeral.** A numeral out of range yields instead how many
of its exponent's digits were left unread when this was seen. -/
def Numeral.value (negative : Bool) (n : Numeral) : Except Nat Json :=
  let (whole, excess) := significandFrom 0 n.whole
  let asDouble (significand : Nat) (e : Int) : Except Nat Json :=
    match double? negative significand e with
    | some bits => .ok (.double bits)
    | none => .error 0
  let fraction := n.fraction.getD []
  let (significand, dropped) := significandFrom whole fraction
  let scale : Int :=
    (excess.length : Int) - ((fraction.length : Int) - (dropped.length : Int))
  match n.exponent with
  | some (small, digits) =>
    match exponentFrom 0 digits with
    | .ok e => asDouble significand (if small then scale - e else scale + e)
    | .error unread =>
      if significand ≠ 0 ∧ small = false then .error unread
      else asDouble 0 0
  | none =>
    if excess.isEmpty && n.fraction.isNone then
      match integerValue negative whole with
      | some v => .ok v
      | none => .error 0
    else asDouble significand scale

/-- **A number read after its sign**, and what follows it. -/
def readNumber (negative : Bool) (cs : List Char) :
    Except Fault (Json × List Char) := do
  let (numeral, rest) ← readNumeral .endInValue cs
  match numeral.value negative with
  | .ok v => return (v, rest)
  | .error unread => .error ⟨.numberTooLarge, byteLength rest + unread⟩

end Switchboard.Json
