import Switchboard.Reply

/-!
# Guards

What stands around a handler: the check of a token, and the answer when a
handler panics. A token is compared without stopping at the first byte that
differs. A panic is told by its text where it carries one.
-/

namespace Switchboard

/-- The bits in which two bytes of equally long rows differ, all taken
together. -/
def difference : List UInt8 → List UInt8 → UInt8
  | a :: as, b :: bs => (a ^^^ b) ||| difference as bs
  | _, _ => 0

/-- **Whether two byte rows are equal**, looking at all bytes of rows of one
length. -/
def sameBytes (a b : List UInt8) : Bool :=
  a.length == b.length && difference a b == 0

/-- **What a handler panics with.** -/
inductive Panic where
  /-- A text. -/
  | text (message : String)
  /-- Anything else. -/
  | other
deriving DecidableEq, Repr

/-- The text of a panic. -/
def Panic.message : Panic → String
  | text message => message
  | other => "unknown panic"

/-- The header that carries the token. -/
def tokenHeader : String := "X-Auth"

/-- The token. -/
def token : String := "100500"

/-- **Whether a request carries the token.** -/
def authorized (r : Http.Request) : Bool :=
  sameBytes ((r.header? tokenHeader).getD []) (Text.utf8 token)

/-- The reply to a request without the token. -/
def unauthorized : Reply := .failure 403 "unauthorized"

/-- The reply when a handler panics. -/
def Reply.ofPanic (p : Panic) : Reply := .failure 500 p.message

end Switchboard
