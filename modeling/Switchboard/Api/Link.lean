import Switchboard.GenerationError
import Switchboard.OrderedMap

/-!
# Linking handlers to their records

A handler is linked to the first record of the name it takes. Linking goes
through the handlers in order and stops at the first one whose record does not
exist; those before it stay linked.
-/

namespace Switchboard

/-- The position of the first record of a name. -/
def recordIndex? (records : List Record) (name : String) : Option Nat :=
  records.findIdx? fun r => r.name == name

/-- A handler linked to its record. -/
def Handler.linkedIn? (h : Handler) (records : List Record) : Option Handler :=
  (recordIndex? records h.record).map fun i => { h with link := some i }

/-- The refusal of a handler whose record does not exist. -/
def Handler.unresolved (h : Handler) : GenerationError :=
  .unresolvedRecord h.location h.receiver h.name h.record

/-- **Handlers linked in order**, and the refusal that linking stopped at. -/
def linkHandlers (records : List Record) :
    List Handler → List Handler × Option GenerationError
  | [] => ([], none)
  | h :: rest =>
    match h.linkedIn? records with
    | none => (h :: rest, some h.unresolved)
    | some linked =>
      let (rest, refusal) := linkHandlers records rest
      (linked :: rest, refusal)

/-- **An API with its handlers linked**, and the refusal that linking stopped
at. -/
def Api.link (api : Api) : Api × Option GenerationError :=
  let (handlers, refusal) := linkHandlers api.records api.handlers
  ({ api with handlers := handlers }, refusal)

/-- **The handlers by receiver**, both in order of first appearance. -/
def Api.byReceiver (api : Api) : OrderedMap (List Handler) :=
  api.handlers.foldl
    (fun m h => m.upsert h.receiver fun hs => hs.getD [] ++ [h]) .empty

end Switchboard
