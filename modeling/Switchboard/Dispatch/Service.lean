import Switchboard.Api.Link

/-!
# The services of an API

Each receiver is a service of its own. Its endpoints are its handlers in order,
each with the record its link leads to. An API whose links do not all lead to
a record has no services; the refusal names the first handler at fault, the
handlers taken receiver by receiver.
-/

namespace Switchboard

/-- **A handler with the record it takes.** -/
structure Endpoint where
  /-- The handler. -/
  handler : Handler
  /-- The record. -/
  record : Record
deriving DecidableEq, Repr

/-- **The endpoints of a receiver.** -/
structure Service where
  /-- The receiver. -/
  receiver : String
  /-- Its endpoints, in order. -/
  endpoints : List Endpoint
deriving DecidableEq, Repr

/-- The endpoint of a handler. -/
def Api.endpoint (api : Api) (h : Handler) : Except GenerationError Endpoint :=
  match api.linkedRecord? h with
  | some r => .ok ⟨h, r⟩
  | none => .error h.unresolved

/-- **The services of an API**, by first appearance of their receivers. -/
def Api.services (api : Api) : Except GenerationError (List Service) :=
  api.byReceiver.entries.mapM fun (receiver, handlers) => do
    return ⟨receiver, ← handlers.mapM api.endpoint⟩

end Switchboard
