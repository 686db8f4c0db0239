import Switchboard.Text.Decimal

/-!
# Where and why a JSON text cannot be read

A reading that fails names its cause and how many bytes of the text were still
to be read. The place is told as a line, counted from one, and a column,
counted in bytes from the start of the line.
-/

namespace Switchboard.Json

/-- **Why a JSON text cannot be read.** -/
inductive Cause where
  /-- The text ends inside a list. -/
  | endInList
  /-- The text ends inside an object. -/
  | endInObject
  /-- The text ends inside a string. -/
  | endInString
  /-- The text ends where a value has to go on. -/
  | endInValue
  /-- A member name is not followed by a colon. -/
  | colonExpected
  /-- A list goes on with neither a comma nor its end. -/
  | listGoesOn
  /-- An object goes on with neither a comma nor its end. -/
  | objectGoesOn
  /-- A word is none of `true`, `false` and `null`. -/
  | wordExpected
  /-- No value begins so. -/
  | valueExpected
  /-- An escape that strings do not have. -/
  | badEscape
  /-- A number out of shape. -/
  | badNumber
  /-- A number too large for a double. -/
  | numberTooLarge
  /-- A control character inside a string. -/
  | controlInString
  /-- A member name that is no string. -/
  | nameExpected
  /-- A surrogate escape without its partner. -/
  | loneSurrogate
  /-- The second half of a surrogate pair is not escaped. -/
  | pairCut
  /-- A comma before the end of a list or an object. -/
  | commaAtEnd
  /-- More text than the value. -/
  | textAfterEnd
  /-- A value of one type where another one is asked for. -/
  | mismatch (found expected : String)
  /-- A member that occurs twice. -/
  | repeatedMember (name : String)

/-- **The wording of a cause.** -/
def Cause.message : Cause → String
  | endInList => "EOF while parsing a list"
  | endInObject => "EOF while parsing an object"
  | endInString => "EOF while parsing a string"
  | endInValue => "EOF while parsing a value"
  | colonExpected => "expected `:`"
  | listGoesOn => "expected `,` or `]`"
  | objectGoesOn => "expected `,` or `\x7d`"
  | wordExpected => "expected ident"
  | valueExpected => "expected value"
  | badEscape => "invalid escape"
  | badNumber => "invalid number"
  | numberTooLarge => "number out of range"
  | controlInString =>
    "control character (\\u0000-\\u001F) found while parsing a string"
  | nameExpected => "key must be a string"
  | loneSurrogate => "lone leading surrogate in hex escape"
  | pairCut => "unexpected end of hex escape"
  | commaAtEnd => "trailing comma"
  | textAfterEnd => "trailing characters"
  | mismatch found expected => "invalid type: " ++ found ++ ", expected " ++ expected
  | repeatedMember name => "duplicate field `" ++ name ++ "`"

/-- **A failed reading**: its cause, and the bytes left to be read. -/
structure Fault where
  /-- Why the reading failed. -/
  cause : Cause
  /-- How many bytes of the text lie behind the place. -/
  left : Nat

/-- The number of bytes of a text. -/
def byteLength (cs : List Char) : Nat :=
  cs.foldl (fun n c => n + c.utf8Size) 0

/-- A fault right before the rest of a text. -/
def Fault.before (cause : Cause) (rest : List Char) : Fault :=
  ⟨cause, byteLength rest⟩

/-- A fault one byte into the rest of a text, or at the end when nothing is
left. -/
def Fault.inside (cause : Cause) (rest : List Char) : Fault :=
  ⟨cause, byteLength rest - 1⟩

/-- **The line and the column a number of bytes further on**, from a line and
a column given. -/
def placeAfter (line column : Nat) : Nat → List Char → Nat × Nat
  | 0, _ => (line, column)
  | _, [] => (line, column)
  | bytes + 1, c :: rest =>
    if c = '\n' then placeAfter (line + 1) 0 bytes rest
    else
      placeAfter line (column + min (bytes + 1) c.utf8Size)
        (bytes + 1 - c.utf8Size) rest

/-- **The wording of a fault in a text**, with its place. -/
def Fault.message (text : List Char) (f : Fault) : String :=
  let (line, column) := placeAfter 1 0 (byteLength text - f.left) text
  f.cause.message ++ " at line " ++ Text.decimal line ++ " column "
    ++ Text.decimal column

end Switchboard.Json
