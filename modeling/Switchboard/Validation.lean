import Switchboard.Input

/-!
# Validation

A rule is a row of clauses between commas; a comma inside parentheses belongs
to its clause. A clause is `required`, or a name with an argument in
parentheses. A clause of another form is kept, but no value meets it.

A template pairs form keys with rules. A key without an input fails only where
its rule requires it, and so does a zero. Any other value has to meet the
clauses in order, and the first one it does not meet is reported. An input that
no template entry names is an error of its own, reported after those of the
template.
-/

namespace Switchboard

open Text

/-! ## Rules -/

/-- The pieces of a rule between the commas outside of parentheses, given how
deep in parentheses it begins. -/
def clausePieces (depth : Nat) : List Char → List (List Char)
  | [] => [[]]
  | c :: rest =>
    if c = ',' ∧ depth = 0 then [] :: clausePieces 0 rest
    else
      let depth := if c = '(' then depth + 1 else if c = ')' then depth - 1 else depth
      match clausePieces depth rest with
      | [] => [[c]]
      | p :: ps => (c :: p) :: ps

/-- **The clauses of a rule**, without the blanks around them and without
those that are blank. -/
def splitClauses (rule : String) : List String :=
  (((clausePieces 0 rule.toList).map trim).filter fun p => !p.isEmpty).map
    String.ofList

/-- **What a clause demands.** -/
inductive Rule where
  /-- The value is not zero. -/
  | required
  /-- The value is of a kind. -/
  | type (kind : Kind)
  /-- The value's text is one of these. -/
  | oneOf (allowed : List String)
  /-- The value's text has at least so many characters. -/
  | minLength (n : Nat)
  /-- The value's text has at most so many characters. -/
  | maxLength (n : Nat)
  /-- The value is a number within bounds. -/
  | range (min max : Option Int)
  /-- Nothing that could be met. -/
  | unknown
deriving DecidableEq, Repr

/-- A bound of a range; an empty one is open. -/
def readRangeBound (cs : List Char) : Option (Option Int) :=
  if cs.isEmpty then some none else (int64? cs).map some

/-- The range of an argument. -/
def readRange? (argument : List Char) : Option Rule := do
  let (lo, hi) ← cut? '|' argument
  return .range (← readRangeBound lo) (← readRangeBound hi)

/-- The rule of a clause's name and argument. -/
def ruleOf (name : String) (argument : List Char) : Rule :=
  match name with
  | "type" => ((Kind.ofName? (String.ofList argument)).map .type).getD .unknown
  | "in" => .oneOf ((pieces '|' argument).map String.ofList)
  | "minstringlength" => ((uint64? argument).map .minLength).getD .unknown
  | "maxstringlength" => ((uint64? argument).map .maxLength).getD .unknown
  | "range" => (readRange? argument).getD .unknown
  | _ => .unknown

/-- **The rule a clause states.** -/
def Rule.read (clause : String) : Rule :=
  if clause = "required" then .required
  else
    let cs := clause.toList
    if cs.getLast? = some ')' then
      match cut? '(' cs.dropLast with
      | some (name, argument) => ruleOf (String.ofList name) argument
      | none => .unknown
    else .unknown

/-- The number of a value. -/
def InputValue.number? : InputValue → Option Int
  | .int n => some n
  | .string s => int64? s.toList

/-- **Whether a value meets a rule.** -/
def Rule.accepts : Rule → InputValue → Bool
  | required, v => !v.isZero
  | type kind, v => v.hasKind kind
  | oneOf allowed, v => allowed.contains v.text
  | minLength n, v => n ≤ v.text.length
  | maxLength n, v => v.text.length ≤ n
  | range min max, v =>
    match v.number? with
    | none => false
    | some x => min.all (· ≤ x) && max.all (x ≤ ·)
  | unknown, _ => false

/-! ## Errors -/

/-- **What is wrong with an input.** -/
inductive InputFault where
  /-- It is required and missing. -/
  | missing
  /-- It is required and zero. -/
  | zero
  /-- It does not meet a clause. -/
  | rejected (value : InputValue) (clause : String)
  /-- No template entry names it. -/
  | unlisted
deriving DecidableEq, Repr

/-- The wording of a fault. -/
def InputFault.message : InputFault → String
  | missing => "required field missing"
  | zero => "non zero value required"
  | rejected value clause => value.text ++ " does not validate as " ++ clause
  | unlisted => "all map keys has to be present in the validation map"

/-- **An error of a form key.** -/
structure FieldError where
  /-- The form key. -/
  key : String
  /-- What is wrong. -/
  fault : InputFault
deriving DecidableEq, Repr

/-- The wording of an error. -/
def FieldError.message (e : FieldError) : String := e.key ++ ": " ++ e.fault.message

/-- The wording of errors, in one line. -/
def errorsMessage (errors : List FieldError) : String :=
  join ";" (errors.map FieldError.message)

/-! ## Templates -/

/-- **Rules by form key**; a key may occur more than once. -/
abbrev Template := List (String × String)

/-- **What is wrong with the input of a key under a rule.** -/
def faultUnder (rule : String) (input : Option InputValue) : Option InputFault :=
  if rule = noRule then none
  else
    let clauses := splitClauses rule
    let required := clauses.contains "required"
    match input with
    | none => if required then some .missing else none
    | some v =>
      if v.isZero then if required then some .zero else none
      else
        (clauses.find? fun clause => !(Rule.read clause).accepts v).map
          (.rejected v)

/-- The errors of the entries of a template, in order. -/
def templateErrors (inputs : InputMap) (template : Template) : List FieldError :=
  template.filterMap fun (key, rule) =>
    (faultUnder rule (inputs.get? key)).map fun fault => ⟨key, fault⟩

/-- The errors of the inputs that no template entry names, in order. -/
def unlistedErrors (inputs : InputMap) (template : Template) : List FieldError :=
  (inputs.keys.filter fun key => !template.any fun e => e.1 == key).map
    fun key => ⟨key, .unlisted⟩

/-- **All that is wrong with inputs under a template.** -/
def validate (inputs : InputMap) (template : Template) : List FieldError :=
  templateErrors inputs template ++ unlistedErrors inputs template

end Switchboard
