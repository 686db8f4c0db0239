import Switchboard.Doc.Tag
import Switchboard.Api.Basic
import Switchboard.Text.Pieces

/-!
# The constraints an annotation states

The value of the `apivalidator` pair is a list of clauses between commas. A
clause is a key, or a key and a value after an equals sign. Clauses are taken
one after the other, so of two with one key the later counts. A key that means
nothing here is passed over, as long as it has a value.
-/

namespace Switchboard.Doc

open Text

/-- **Why an annotation is refused.** -/
inductive TagError where
  /-- A clause other than `required` has no value. -/
  | missingValue (key : String)
  /-- A bound is no integer of 64 bits. -/
  | notAnInteger (key value : String)
  /-- No choices are given. -/
  | noChoices
  /-- The least value is above the greatest. -/
  | boundsInverted (min max : Int)
deriving DecidableEq, Repr

/-- The wording of a refusal. -/
def TagError.message : TagError → String
  | missingValue key => "no value for `" ++ key ++ "`"
  | notAnInteger key value =>
    "`" ++ key ++ "` expects a decimal integer, got `" ++ value ++ "`"
  | noChoices => "`enum` needs at least one value"
  | boundsInverted min max =>
    "min (" ++ decimal min ++ ") is greater than max (" ++ decimal max ++ ")"

/-- **A clause of an annotation.** -/
inductive Clause where
  /-- The field must be given. -/
  | required
  /-- The form key. -/
  | key (name : String)
  /-- The values allowed. -/
  | choices (values : List String)
  /-- The value to fall back on. -/
  | fallback (value : String)
  /-- The least value. -/
  | min (bound : Int)
  /-- The greatest value. -/
  | max (bound : Int)
  /-- A clause without a meaning. -/
  | unknown
deriving DecidableEq, Repr

/-- The bound a clause states. -/
def readBound (key : String) (value : List Char) : Except TagError Int :=
  match int64? (trim value) with
  | some n => .ok n
  | none => .error (.notAnInteger key (String.ofList value))

/-- **The clause a text states**, from its key and its value. -/
def Clause.read (key : String) (value : Option (List Char)) :
    Except TagError Clause :=
  match key, value with
  | "required", _ => .ok .required
  | key, none => .error (.missingValue key)
  | "paramname", some value => .ok (.key (String.ofList value))
  | "enum", some value =>
    if value.isEmpty then .error .noChoices
    else .ok (.choices ((pieces '|' value).map String.ofList))
  | "default", some value => .ok (.fallback (String.ofList value))
  | "min", some value => (readBound "min" value).map .min
  | "max", some value => (readBound "max" value).map .max
  | _, some _ => .ok .unknown

/-- The key and the value of a clause's text; blanks around the key do not
count. -/
def splitClause (text : List Char) : String × Option (List Char) :=
  match cut? '=' text with
  | some (key, value) => (String.ofList (trim key), some value)
  | none => (String.ofList text, none)

/-- Constraints with a clause taken in. -/
def Clause.apply (c : Constraints) : Clause → Constraints
  | required => { c with required := true }
  | key name => { c with key := name }
  | choices values => { c with choices := values }
  | fallback value => { c with fallback := value }
  | min bound => { c with min := some bound }
  | max bound => { c with max := some bound }
  | unknown => c

/-- The texts of the clauses in the value of an annotation. -/
def clauseTexts (body : List Char) : List (List Char) :=
  ((pieces ',' body).map trim).filter fun t => !t.isEmpty

/-- Constraints with the clause of a text taken in. -/
def takeClause (c : Constraints) (text : List Char) :
    Except TagError Constraints := do
  let (key, value) := splitClause text
  return (← Clause.read key value).apply c

/-- Constraints whose bounds are in order, marked as declared. -/
def checkBounds (c : Constraints) : Except TagError Constraints :=
  match c.min, c.max with
  | some lo, some hi =>
    if hi < lo then .error (.boundsInverted lo hi)
    else .ok { c with declared := true }
  | _, _ => .ok { c with declared := true }

/-- **The constraints a tag states.** Without an `apivalidator` pair, or with a
blank one, there are none. -/
def constraints (tag : String) : Except TagError Constraints :=
  match (lookup tag "apivalidator").filter fun body => !isBlankText body with
  | none => .ok Constraints.none
  | some body => do
    checkBounds (← (clauseTexts body.toList).foldlM takeClause Constraints.none)

end Switchboard.Doc
