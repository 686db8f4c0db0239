import Switchboard.Api.Rules
import Switchboard.Form

/-!
# Inputs

An input is the decoded value of a form key, a text or an integer. Unsigned
kinds are decoded as signed integers; only taking them out reads them without
a sign.

A key that is missing and a key without a value are alike: the fallback is
taken, and without one there is no input. Decoding stops at the first value
that is no integer where one is asked for.
-/

namespace Switchboard

/-- **A decoded value.** -/
inductive InputValue where
  /-- A text. -/
  | string (s : String)
  /-- An integer of 64 bits. -/
  | int (n : Int)
deriving DecidableEq, Repr

namespace InputValue

/-- Whether a value is zero: empty, or the number zero. -/
def isZero : InputValue → Bool
  | string s => s == ""
  | int n => n == 0

/-- Whether a value is of a kind. -/
def hasKind : InputValue → Kind → Bool
  | string _, .string => true
  | int _, .int => true
  | int _, .uint64 => true
  | _, _ => false

/-- The text of a value. -/
def text : InputValue → String
  | string s => s
  | int n => Text.decimal n

end InputValue

/-- **How a form key is decoded.** -/
structure InputField where
  /-- The form key. -/
  key : String
  /-- The value to fall back on. -/
  fallback : String
  /-- The kind of the value. -/
  kind : Kind
  /-- Whether there is a value to fall back on. -/
  hasFallback : Bool
deriving DecidableEq, Repr

/-- How a field of a record is decoded. -/
def Field.input (f : Field) : InputField :=
  ⟨f.externalKey, f.constraints.fallback, f.kind, f.constraints.hasFallback⟩

/-- **A value that is no integer where one is asked for.** -/
structure InputError where
  /-- The form key. -/
  key : String
  /-- The value. -/
  value : String
deriving DecidableEq, Repr

/-- The wording of such a value, the same for all. -/
def InputError.message (_ : InputError) : String := "!strconv.Atoi(sv)"

/-- The text that is decoded for a key. -/
def InputField.raw? (i : InputField) (form : Form) : Option String :=
  match (form.get? i.key).filter (· != "") with
  | some value => some value
  | none => if i.hasFallback then some i.fallback else none

/-- The value of a text. -/
def InputField.decode (i : InputField) (raw : String) :
    Except InputError InputValue :=
  match i.kind with
  | .string => .ok (.string raw)
  | .int | .uint64 =>
    match Text.int64? raw.toList with
    | some n => .ok (.int n)
    | none => .error ⟨i.key, raw⟩

/-- **The input of a key**, if there is one. -/
def InputField.read (i : InputField) (form : Form) :
    Except InputError (Option InputValue) :=
  match i.raw? form with
  | none => .ok none
  | some raw => (i.decode raw).map some

/-- **Decoded values by key.** -/
abbrev InputMap := OrderedMap InputValue

/-- Inputs with that of a key put in, if there is one. -/
def InputMap.add (form : Form) (inputs : InputMap) (i : InputField) :
    Except InputError InputMap := do
  match ← i.read form with
  | some v => return inputs.insert i.key v
  | none => return inputs

/-- **The inputs of a form**, field by field. -/
def InputMap.ofForm (fields : List InputField) (form : Form) :
    Except InputError InputMap :=
  fields.foldlM (InputMap.add form) .empty

namespace InputMap

/-- The text of a key taken out; empty when there is none. -/
def takeString (inputs : InputMap) (key : String) : String × InputMap :=
  (match inputs.get? key with
    | some (.string s) => s
    | _ => "", inputs.erase key)

/-- The integer of a key taken out; zero when there is none. -/
def takeInt (inputs : InputMap) (key : String) : Int × InputMap :=
  (match inputs.get? key with
    | some (.int n) => n
    | _ => 0, inputs.erase key)

/-- The integer of a key taken out and read without a sign. -/
def takeUint64 (inputs : InputMap) (key : String) : Nat × InputMap :=
  let (n, rest) := inputs.takeInt key
  ((n % 18446744073709551616).toNat, rest)

end InputMap

/-- **The value a field of a record is given.** -/
inductive FieldValue where
  /-- A text. -/
  | string (s : String)
  /-- A signed integer. -/
  | int (n : Int)
  /-- An unsigned integer. -/
  | uint64 (n : Nat)
deriving DecidableEq, Repr

/-- The value of a field taken out of the inputs. -/
def Field.take (f : Field) (inputs : InputMap) : FieldValue × InputMap :=
  match f.kind with
  | .string => (inputs.takeString f.externalKey).map .string id
  | .int => (inputs.takeInt f.externalKey).map .int id
  | .uint64 => (inputs.takeUint64 f.externalKey).map .uint64 id

/-- **The values of fields taken out in order**, by name. -/
def takeFields : List Field → InputMap → List (String × FieldValue)
  | [], _ => []
  | f :: rest, inputs =>
    let (v, inputs) := f.take inputs
    (f.name, v) :: takeFields rest inputs

end Switchboard
