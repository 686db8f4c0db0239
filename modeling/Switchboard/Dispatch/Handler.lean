import Switchboard.Api.Rules
import Switchboard.Dispatch.Router

/-!
# Handler methods

The method that answers for a handler collects the form of the request, decodes
the inputs, validates them, fills the record from them and calls the handler.
It carries two tables of its record: the template and the inputs.
-/

namespace Switchboard.Dispatch

open Text (quote)

/-- A table with an entry on each line. -/
def tableCode (declaration : String) (entries : List String) : Code :=
  .block (declaration ++ " = &[") (entries.map .line) "];"

/-- An entry of the template. -/
def templateEntry (entry : String × String) : String :=
  "(" ++ quote entry.1 ++ ", " ++ quote entry.2 ++ "),"

/-- An entry of the inputs. -/
def inputEntry (f : Field) : String :=
  "InputField \x7b param_name: " ++ quote f.externalKey
    ++ ", default: " ++ quote f.constraints.fallback
    ++ ", kind: " ++ variantName f.kind
    ++ ", has_default: " ++ flagText f.constraints.hasFallback ++ " \x7d,"

/-- A value that is there or ends the method. -/
def bindCode (opening kept : String) : Code :=
  .block opening
    [.line ("Ok(" ++ kept ++ ") => " ++ kept ++ ","),
     .line ("Err(err) => return "
       ++ "apigen_rt::respond_error(StatusCode::BAD_REQUEST, err),")]
    "\x7d;"

/-- What happens before the record is filled. -/
def intakeCode : List Code :=
  [bindCode "let form = match apigen_rt::parse_form(req) \x7b" "form",
   bindCode
     "let mut inputs = match apigen_rt::input_map(INPUTS, &form) \x7b" "inputs",
   .block "if let Err(err) = apigen_rt::validate_map(&inputs, TEMPLATE) \x7b"
     [.line "return apigen_rt::respond_error(StatusCode::BAD_REQUEST, err);"]
     "\x7d"]

/-- The value of a field of the record. -/
def fieldCode (f : Field) : Code :=
  .line (fieldName f.name ++ ": inputs." ++ accessorName f.kind ++ "("
    ++ quote f.externalKey ++ "),")

/-- The record, filled from the inputs. -/
def recordCode (r : Record) : Code :=
  .block ("let params = " ++ r.name ++ " \x7b")
    (r.fields.map fieldCode
      ++ (if r.hasOtherFields then [.line "..Default::default()"] else []))
    "\x7d;"

/-- The record as the handler takes it. -/
def recordArgument (byRef : Bool) : String :=
  if byRef then "&params" else "params"

/-- **The arguments of a handler**: the context, if it takes it, and the
record. -/
def argumentsText (h : Handler) : String :=
  match h.context with
  | none => recordArgument h.byRef
  | some .byRef => "&ctx, " ++ recordArgument h.byRef
  | some .byValue => "ctx, " ++ recordArgument h.byRef

/-- The context of the request, if the handler takes it. -/
def contextCode (h : Handler) : List Code :=
  if h.context.isSome then [.line "let ctx = Context::from_request(req);"]
  else []

/-- The call of a handler and what becomes of its result. -/
def callCode (h : Handler) : Code :=
  .block ("match self." ++ h.name ++ "(" ++ argumentsText h ++ ") \x7b")
    [.line "Ok(value) => apigen_rt::respond(&value),",
     .line ("Err(err) => "
       ++ "apigen_rt::respond_error(apigen_rt::business_status(&err), err),")]
    "\x7d"

/-- **The method that answers for an endpoint.** -/
def endpointCode (e : Endpoint) : Code :=
  .block ("fn " ++ methodName e.handler.name ++ answerSignature)
    ([tableCode "const TEMPLATE: &[(&str, &str)]"
        (e.record.template.entries.map templateEntry),
      tableCode "const INPUTS: &[InputField]" (e.record.fields.map inputEntry),
      .blank]
      ++ intakeCode
      ++ [.blank, recordCode e.record]
      ++ contextCode e.handler
      ++ [callCode e.handler])
    "\x7d"

/-- **The methods that answer for a service.** -/
def endpointsCode (s : Service) : Code :=
  methodsOf s.receiver (spaced (s.endpoints.map endpointCode))

end Switchboard.Dispatch
