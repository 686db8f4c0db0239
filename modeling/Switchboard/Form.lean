import Switchboard.Http.Request
import Switchboard.OrderedMap
import Switchboard.Text.Blank
import Switchboard.Text.Pieces
import Switchboard.Text.Decimal

/-!
# Forms

A form lists values by key. Keys stand in the order they first arrived, the
values of a key in the order they arrived, and the value that counts is the
first.

A request carries a form in its query. Where its verb and content type say so
it carries another one in its body, whose pairs come before those of the
query. Such a body has to be text; everything else is decoded leniently.
-/

namespace Switchboard

/-- **A form**: the values of each key. -/
structure Form where
  /-- The values by key. -/
  values : OrderedMap (List String)

namespace Form

/-- The form without pairs. -/
def empty : Form := ⟨.empty⟩

/-- A form with a pair added after the others. -/
def append (f : Form) (key value : String) : Form :=
  ⟨f.values.upsert key fun old => old.getD [] ++ [value]⟩

/-- The pairs of a list, added one after the other. -/
def extend (f : Form) (pairs : List (String × String)) : Form :=
  pairs.foldl (fun f p => f.append p.1 p.2) f

/-- The form of a list of pairs. -/
def ofList (pairs : List (String × String)) : Form := empty.extend pairs

/-- Whether a key was sent. -/
def has (f : Form) (key : String) : Bool := f.values.contains key

/-- All values of a key. -/
def getAll (f : Form) (key : String) : List String :=
  (f.values.get? key).getD []

/-- **The value of a key**: the one that arrived first. -/
def get? (f : Form) (key : String) : Option String := (f.getAll key).head?

/-- The number of keys. -/
def size (f : Form) : Nat := f.values.size

/-- Whether nothing was sent. -/
def isEmpty (f : Form) : Bool := f.size == 0

/-! ## Decoding -/

/-- The value of a byte that is a hexadecimal digit. -/
def hexByte? (b : UInt8) : Option UInt8 :=
  (Text.hexDigit? (Char.ofNat b.toNat)).map UInt8.ofNat

/-- **Bytes with their escapes resolved**: a percent sign and two hexadecimal
digits are one byte. A percent sign elsewhere stands for itself. -/
def percentDecode : List UInt8 → List UInt8
  | [] => []
  | b :: h :: l :: rest =>
    if b = 0x25 then
      match hexByte? h, hexByte? l with
      | some high, some low => (high * 16 + low) :: percentDecode rest
      | _, _ => b :: percentDecode (h :: l :: rest)
    else b :: percentDecode (h :: l :: rest)
  | b :: rest => b :: percentDecode rest

/-- The text of a key or a value: a plus sign is a space. -/
def decodeText (bytes : List UInt8) : String :=
  let spaced := bytes.map fun b => if b = 0x2b then 0x20 else b
  String.ofList (Text.decodeUtf8Lossy (percentDecode spaced))

/-- The pair of a piece between ampersands, cut at its first equals sign. -/
def decodePair (piece : List UInt8) : String × String :=
  match Text.cut? 0x3d piece with
  | some (key, value) => (decodeText key, decodeText value)
  | none => (decodeText piece, "")

/-- **The pairs of an encoded form.** Empty pieces are none. -/
def decodePairs (bytes : List UInt8) : List (String × String) :=
  ((Text.pieces 0x26 bytes).filter fun piece => !piece.isEmpty).map decodePair

/-! ## Requests -/

/-- The content type of an encoded form. -/
def contentType : String := "application/x-www-form-urlencoded"

/-- Whether a content type is that of a form; letter case and what follows a
semicolon do not count. -/
def isFormType (value : String) : Bool :=
  let media := (Text.pieces ';' value.toList).headD []
  String.ofList (Text.trim media) |>.toLower |> (· == contentType)

/-- **Whether a request carries a form in its body.** -/
def inBody (r : Http.Request) : Bool :=
  ["POST", "PUT", "PATCH"].contains r.verb
    && (r.headerText? "content-type").any isFormType

/-- The pairs in the query of a request. -/
def queryPairs (r : Http.Request) : List (String × String) :=
  match r.uri.query with
  | some query => decodePairs (Text.utf8 query)
  | none => []

/-- **The form of a request.** -/
def ofRequest (r : Http.Request) : Except Text.Utf8Fault Form :=
  if inBody r then do
    let _ ← Text.decodeUtf8 0 r.body
    return (empty.extend (decodePairs r.body)).extend (queryPairs r)
  else .ok (empty.extend (queryPairs r))

/-- The wording of a body that is no text. -/
def faultMessage (f : Text.Utf8Fault) : String :=
  "invalid form body: " ++ f.message

end Form

end Switchboard
