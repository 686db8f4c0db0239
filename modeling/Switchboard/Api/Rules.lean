import Switchboard.Api.Basic
import Switchboard.OrderedMap
import Switchboard.Text.Lowercase
import Switchboard.Text.Pieces

/-!
# The rules of a record

A field's constraints are put into one line of clauses between commas, in a
fixed order: that it is required, its kind, its choices, its bounds. The bounds
of a text are on its length, one clause each; those of an integer share one
clause, with a side left open where there is no bound. A field without
constraints has a dash.

A record's template lists the rules by form key. Of fields that share a key the
last one's rule counts, at the place of the first.
-/

namespace Switchboard

open Text

/-- The form key of a field: the one its constraints name, else its own name in
lower case. -/
def externalKey (name : String) (c : Constraints) : String :=
  if c.key = "" then lowercase name else c.key

/-- The form key of a field. -/
def Field.externalKey (f : Field) : String :=
  Switchboard.externalKey f.name f.constraints

/-- A clause: a name with an argument in parentheses. -/
def clause (name argument : String) : String := name ++ "(" ++ argument ++ ")"

/-- The clauses of a text's bounds, which are on its length. -/
def lengthClauses (c : Constraints) : List String :=
  (c.min.map fun n => clause "minstringlength" (decimal n)).toList ++
    (c.max.map fun n => clause "maxstringlength" (decimal n)).toList

/-- A bound, or nothing for none. -/
def boundText (bound : Option Int) : String := (bound.map decimal).getD ""

/-- The clause of an integer's bounds, if there are any. -/
def rangeClauses (c : Constraints) : List String :=
  if c.min.isNone && c.max.isNone then []
  else [clause "range" (boundText c.min ++ "|" ++ boundText c.max)]

/-- **The clauses of a field's rule**, in order. -/
def ruleClauses (kind : Kind) (c : Constraints) : List String :=
  (if c.required then ["required"] else []) ++
    [clause "type" kind.name] ++
    (if c.choices.isEmpty then [] else [clause "in" (join "|" c.choices)]) ++
    (match kind with
      | .string => lengthClauses c
      | .int | .uint64 => rangeClauses c)

/-- The rule that demands nothing. -/
def noRule : String := "-"

/-- **The rule of a field's constraints.** -/
def ruleText (kind : Kind) (c : Constraints) : String :=
  if c.declared then join "," (ruleClauses kind c) else noRule

/-- The rule of a field. -/
def Field.rule (f : Field) : String := ruleText f.kind f.constraints

/-- **The template of fields**: their rules by form key. -/
def templateOf (fields : List Field) : OrderedMap String :=
  .ofList (fields.map fun f => (f.externalKey, f.rule))

/-- The template of a record. -/
def Record.template (r : Record) : OrderedMap String := templateOf r.fields

end Switchboard
