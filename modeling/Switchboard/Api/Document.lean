import Switchboard.Api.Basic
import Switchboard.Json.Value

/-!
# An API as a JSON document

The members of the document stand in a fixed order. What a handler lacks is
null, a bound that is not set is zero.
-/

namespace Switchboard

/-- Constraints as a document. -/
def Constraints.document (c : Constraints) : Json :=
  .object
    [("parsed", .bool c.declared), ("required", .bool c.required),
     ("param_name", .string c.key),
     ("enum_values", .array (c.choices.map .string)),
     ("default", .string c.fallback), ("is_min", .bool c.min.isSome),
     ("min", .int (c.min.getD 0)), ("is_max", .bool c.max.isSome),
     ("max", .int (c.max.getD 0))]

/-- A field as a document. -/
def Field.document (f : Field) : Json :=
  .object
    [("name", .string f.name), ("kind", .string f.kind.name),
     ("raw_tag", .string f.tag), ("meta", f.constraints.document)]

/-- A place as a document. -/
def Location.document (l : Location) : Json :=
  .object
    [("file", .string l.file), ("line", .int l.line), ("column", .int l.column)]

/-- A record as a document. -/
def Record.document (r : Record) : Json :=
  .object
    [("name", .string r.name), ("fields", .array (r.fields.map Field.document)),
     ("has_untagged_fields", .bool r.hasOtherFields),
     ("location", r.location.document)]

/-- A directive as a document. -/
def Directive.document (d : Directive) : Json :=
  .object
    [("url", .string d.url), ("auth", .bool d.auth), ("method", .string d.verb)]

/-- The name of a way to take the context. -/
def ContextMode.name : ContextMode → String
  | byRef => "by_ref"
  | byValue => "by_value"

/-- A handler as a document. -/
def Handler.document (h : Handler) : Json :=
  .object
    [("receiver_name", .string h.receiver), ("handler_name", .string h.name),
     ("argument_name", .string h.argument),
     ("argument_record_name", .string h.record),
     ("argument_by_ref", .bool h.byRef),
     ("context", Json.ofOption (fun m => .string m.name) h.context),
     ("result_type_name", .string h.result),
     ("directive", h.directive.document),
     ("linked_record", Json.ofOption (fun (i : Nat) => .int i) h.link),
     ("location", h.location.document)]

/-- **An API as a document.** -/
def Api.document (api : Api) : Json :=
  .object
    [("module", .string api.moduleName),
     ("methods", .array (api.handlers.map Handler.document)),
     ("records", .array (api.records.map Record.document))]

end Switchboard
