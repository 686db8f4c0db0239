import Switchboard.Guard
import Switchboard.Validation

/-!
# From a request to the inputs of a handler

What happens before a handler is called: the form of the request is collected,
its values are decoded as the handler's fields ask, and the inputs are
validated against the template of the fields. The first of the three that
fails decides, and all failures answer alike.
-/

namespace Switchboard

/-- **Why a request does not reach its handler.** -/
inductive IntakeError where
  /-- The body is no text. -/
  | badBody (fault : Text.Utf8Fault)
  /-- A value is no integer. -/
  | badInput (error : InputError)
  /-- The inputs are not valid. -/
  | invalid (errors : List FieldError)

/-- The wording of a failure. -/
def IntakeError.message : IntakeError → String
  | badBody fault => Form.faultMessage fault
  | badInput error => error.message
  | invalid errors => errorsMessage errors

/-- The reply of a failure. -/
def IntakeError.reply (e : IntakeError) : Reply := .failure 400 e.message

/-- **The inputs of fields in a form.** -/
def inputsOfForm (fields : List Field) (form : Form) :
    Except IntakeError InputMap := do
  let inputs ← (InputMap.ofForm (fields.map Field.input) form).mapError .badInput
  match validate inputs (templateOf fields).entries with
  | [] => return inputs
  | errors => .error (.invalid errors)

/-- **The inputs of fields in a request.** -/
def inputsOfRequest (fields : List Field) (r : Http.Request) :
    Except IntakeError InputMap := do
  let form ← (Form.ofRequest r).mapError .badBody
  inputsOfForm fields form

/-- **The values of fields in a request**, by name. -/
def intake (fields : List Field) (r : Http.Request) :
    Except IntakeError (List (String × FieldValue)) :=
  (inputsOfRequest fields r).map (takeFields fields)

end Switchboard
