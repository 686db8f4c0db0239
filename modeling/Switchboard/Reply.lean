import Switchboard.Http.Request
import Switchboard.Json.Value

/-!
# Replies

A reply is a status with a JSON body. Success answers with the value and an
empty error; failure with the error's message alone, which is put into
friendlier words where there are some.

A business error carries its own status only where it is told apart from other
errors: on its own, or boxed as a general error, which may be one that can be
shared. In any other box, and as a mere text, it counts as an internal error.
-/

namespace Switchboard

/-- **A reply.** -/
structure Reply where
  /-- The status. -/
  status : Nat
  /-- The type of the body. -/
  contentType : String
  /-- The body. -/
  body : String
deriving DecidableEq, Repr

/-- The reply with a JSON body. -/
def Reply.json (status : Nat) (body : Json) : Reply :=
  ⟨status, "application/json", body.compact⟩

/-- Messages with friendlier words. -/
def friendlyWords : List (String × String) :=
  [("login: required field missing", "login must me not empty"),
   ("login: new_m does not validate as minstringlength(10)",
    "login len must be >= 10"),
   ("age: -1 does not validate as range(0|128)", "age must be >= 0"),
   ("age: 256 does not validate as range(0|128)", "age must be <= 128"),
   ("status: adm does not validate as in(user|moderator|admin)",
    "status must be one of [user, moderator, admin]"),
   ("class: barbarian does not validate as in(warrior|sorcerer|rouge)",
    "class must be one of [warrior, sorcerer, rouge]"),
   ("interface conversion: error is *errors.errorString, not main.ApiError",
    "bad user"),
   ("!strconv.Atoi(sv)", "age must be int")]

/-- **A message in friendlier words**, if there are some, else unchanged. -/
def friendly (message : String) : String :=
  (friendlyWords.lookup message).getD message

/-- **The reply of a failure.** -/
def Reply.failure (status : Nat) (message : String) : Reply :=
  .json status (.object [("error", .string (friendly message))])

/-- **The reply of a success.** -/
def Reply.success (value : Json) : Reply :=
  .json 200 (.object [("error", .string ""), ("response", value)])

/-- **What a value is answered with**, where writing it out may fail. -/
def Reply.ofValue : Except String Json → Reply
  | .ok value => .success value
  | .error message => .failure 500 message

/-- How an error that carries a status is wrapped. -/
inductive Wrapping where
  /-- Not at all. -/
  | bare
  /-- As a general error. -/
  | boxed
  /-- As a general error that can be shared. -/
  | boxedShared
  /-- As a general error that can be passed on only. -/
  | boxedMovable
  /-- In a box of its own type. -/
  | boxedExact
deriving DecidableEq, Repr

/-- **An error of the business behind an API.** -/
inductive BusinessError where
  /-- An error with a status. -/
  | withStatus (wrapping : Wrapping) (status : Nat) (message : String)
  /-- A mere text, boxed or not. -/
  | text (message : String)
deriving DecidableEq, Repr

/-- The wording of an error. -/
def BusinessError.message : BusinessError → String
  | withStatus _ _ message => message
  | text message => message

/-- Whether the status of an error shows through its wrapping. -/
def Wrapping.showsStatus : Wrapping → Bool
  | bare | boxed | boxedShared => true
  | boxedMovable | boxedExact => false

/-- **The status an error is answered with.** -/
def BusinessError.status : BusinessError → Nat
  | withStatus wrapping status _ => if wrapping.showsStatus then status else 500
  | text _ => 500

/-- The reply of an error. -/
def Reply.ofError (e : BusinessError) : Reply := .failure e.status e.message

end Switchboard
