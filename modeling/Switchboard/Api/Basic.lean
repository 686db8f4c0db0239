import Switchboard.Location

/-!
# What a described API consists of

An API is the list of its handlers and of the records they take, both in the
order they were declared. A handler belongs to a receiver and carries the
directive that says where it is reached. A record lists the fields a form
fills, each with a kind and the constraints its annotation states.

A handler names the record it takes; once linked it also knows the position of
that record. A link is a position and nothing more, so it may point past the
end of the records.
-/

namespace Switchboard

/-- **The kinds a form field can have.** -/
inductive Kind where
  /-- A text. -/
  | string
  /-- A signed integer of 64 bits. -/
  | int
  /-- An unsigned integer of 64 bits. -/
  | uint64
deriving DecidableEq, Repr

/-- The name of a kind in rules. -/
def Kind.name : Kind → String
  | string => "string"
  | int => "int"
  | uint64 => "uint64"

/-- The kind of a name. -/
def Kind.ofName? : String → Option Kind
  | "string" => some string
  | "int" => some int
  | "uint64" => some uint64
  | _ => none

theorem Kind.ofName?_name (k : Kind) : Kind.ofName? k.name = some k := by
  cases k <;> rfl

/-- **What an annotation demands of a field.** -/
structure Constraints where
  /-- Whether there was anything in the annotation. -/
  declared : Bool
  /-- Whether the field must be given and not be zero. -/
  required : Bool
  /-- The form key, or nothing for the field's own name. -/
  key : String
  /-- The values allowed, or nothing for all. -/
  choices : List String
  /-- The value taken when none is given, or nothing. -/
  fallback : String
  /-- The least value, or for a text the least length. -/
  min : Option Int
  /-- The greatest value, or for a text the greatest length. -/
  max : Option Int
deriving DecidableEq, Repr

/-- No demands. -/
def Constraints.none : Constraints :=
  ⟨false, false, "", [], "", .none, .none⟩

/-- Whether there is a value to fall back on. -/
def Constraints.hasFallback (c : Constraints) : Bool := c.fallback != ""

/-- **A field that a form fills.** -/
structure Field where
  /-- Its name. -/
  name : String
  /-- Its kind. -/
  kind : Kind
  /-- Its annotations as written. -/
  tag : String
  /-- What they demand. -/
  constraints : Constraints
deriving DecidableEq, Repr

/-- **A record that a handler takes.** -/
structure Record where
  /-- Its name. -/
  name : String
  /-- The fields a form fills, in order. -/
  fields : List Field
  /-- Whether it has fields beside these. -/
  hasOtherFields : Bool
  /-- Where it is declared. -/
  location : Location
deriving DecidableEq, Repr

/-- **Where and how a handler is reached.** -/
structure Directive where
  /-- The path. -/
  url : String
  /-- Whether a token is needed. -/
  auth : Bool
  /-- The verb, or nothing for any verb. -/
  verb : String
deriving DecidableEq, Repr

/-- How a handler takes the context of a request. -/
inductive ContextMode where
  /-- As a reference. -/
  | byRef
  /-- As a value. -/
  | byValue
deriving DecidableEq, Repr

/-- **A handler.** -/
structure Handler where
  /-- The type it belongs to. -/
  receiver : String
  /-- Its name. -/
  name : String
  /-- The name of its argument. -/
  argument : String
  /-- The name of the record it takes. -/
  record : String
  /-- Whether it takes the record as a reference. -/
  byRef : Bool
  /-- How it takes the context of the request, if it does. -/
  context : Option ContextMode
  /-- The name of its result. -/
  result : String
  /-- Where it is reached. -/
  directive : Directive
  /-- The position of the record it takes, once linked. -/
  link : Option Nat
  /-- Where it is declared. -/
  location : Location
deriving DecidableEq, Repr

/-- **An API**: its handlers and its records, in order. -/
structure Api where
  /-- The name of the module it describes. -/
  moduleName : String
  /-- The handlers. -/
  handlers : List Handler
  /-- The records. -/
  records : List Record
deriving DecidableEq, Repr

/-- The record a handler is linked to, where the link leads to one. -/
def Api.linkedRecord? (api : Api) (h : Handler) : Option Record := do
  api.records[← h.link]?

end Switchboard
