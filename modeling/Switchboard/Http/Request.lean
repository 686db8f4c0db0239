import Switchboard.Http.Uri
import Switchboard.Text.Utf8

/-!
# Requests

A request has a verb, a target, header values by name, and a body of bytes.
Header names do not depend on case and are kept in lower case. A name may have
several values; the first one is the value looked at.

Putting a request together checks its parts in order, the verb first and the
headers last, and the first refusal counts.
-/

namespace Switchboard.Http

/-- **Why a request or a status is refused.** -/
inductive HttpError where
  /-- The verb is no token. -/
  | badVerb
  /-- The target is refused. -/
  | badUri (reason : UriError)
  /-- A header name is no token. -/
  | badHeaderName
  /-- A header value holds a control character. -/
  | badHeaderValue
  /-- A status is not between 100 and 999. -/
  | badStatus
deriving DecidableEq, Repr

/-- The wording of a refusal. -/
def HttpError.message : HttpError → String
  | badVerb => "invalid HTTP method"
  | badUri reason => reason.message
  | badHeaderName => "invalid HTTP header name"
  | badHeaderValue => "failed to parse header value"
  | badStatus => "invalid status code"

/-- **A header**, its name in lower case. -/
structure Header where
  /-- The name. -/
  name : String
  /-- The value. -/
  value : List UInt8
deriving DecidableEq, Repr

/-- **A request.** -/
structure Request where
  /-- The verb. -/
  verb : String
  /-- The target. -/
  uri : Uri
  /-- The headers, in order. -/
  headers : List Header
  /-- The body. -/
  body : List UInt8
deriving DecidableEq, Repr

/-- Whether a character may stand in a token. -/
def isTokenChar (c : Char) : Bool :=
  c.isAlphanum || "!#$%&\x27*+-.^_\x60|~".toList.contains c

/-- Whether a text is a token. -/
def isToken (s : String) : Bool := s != "" && s.toList.all isTokenChar

/-- Whether a byte may stand in a header value. -/
def isHeaderByte (b : UInt8) : Bool := (0x20 ≤ b && b != 0x7f) || b == 0x09

/-- **A header from its name and value.** -/
def Header.make (name value : String) : Except HttpError Header :=
  if !isToken name then .error .badHeaderName
  else if !(Text.utf8 value).all isHeaderByte then .error .badHeaderValue
  else .ok ⟨name.toLower, Text.utf8 value⟩

/-- **A request from its parts.** -/
def Request.make (verb uri : String) (headers : List (String × String))
    (body : List UInt8) : Except HttpError Request := do
  if !isToken verb then .error .badVerb
  let uri ← (Uri.read uri).mapError .badUri
  let headers ← headers.mapM fun (name, value) => Header.make name value
  return ⟨verb, uri, headers, body⟩

/-- The value of a header: the first of its values. -/
def Request.header? (r : Request) (name : String) : Option (List UInt8) :=
  (r.headers.find? fun h => h.name == name.toLower).map Header.value

/-- Whether a byte of a header value is plain text. -/
def isPlainByte (b : UInt8) : Bool := (0x20 ≤ b && b < 0x7f) || b == 0x09

/-- The text of plain bytes, if all are. -/
def plainText? (bytes : List UInt8) : Option String :=
  if bytes.all isPlainByte then
    some (String.ofList (bytes.map fun b => Char.ofNat b.toNat))
  else none

/-- **The text of a header**, if it is there and plain. -/
def Request.headerText? (r : Request) (name : String) : Option String :=
  (r.header? name).bind plainText?

/-- Whether a number can be a status. -/
def isStatus (n : Nat) : Bool := 100 ≤ n && n ≤ 999

end Switchboard.Http
