import Switchboard.Api.Basic
import Switchboard.Json.Reader
import Switchboard.Text.Blank
import Switchboard.Text.Pieces
import Switchboard.Text.Quoted

/-!
# The directive of a handler

A directive stands in the documentation of a handler, after the marker at the
start of the first line that begins with it. It is a JSON object with the
members `url`, `auth` and `method`, or a list of their values in this order.
Members left out are empty or false, other members are passed over, and what
follows the object or list is not looked at.

A refusal names the part of the directive that it was found in. The name of a
member that could not be read is unknown; a fault between the parts belongs to
the whole.
-/

namespace Switchboard.Doc

open Json

/-- What a directive is marked by. -/
def directiveMarker : String := "apigen:api"

/-- Whether the marker occurs anywhere in a documentation text. -/
def hasMarker (doc : String) : Bool :=
  Text.occursIn directiveMarker.toList doc.toList

/-- The text after the first marker that begins a line, blanks before it
aside. `lineStart` tells whether only blanks stand before on this line. -/
def afterMarker? (lineStart : Bool) : List Char → Option (List Char)
  | [] => none
  | c :: rest =>
    if lineStart && directiveMarker.toList.isPrefixOf (c :: rest) then
      some ((c :: rest).drop directiveMarker.length)
    else if c = '\n' then afterMarker? true rest
    else afterMarker? (lineStart && Text.isBlank c) rest

/-- **The part of a directive a refusal is about.** -/
inductive DirectivePart where
  /-- The directive as a whole. -/
  | whole
  /-- A member whose name is not known. -/
  | unknown
  /-- The member of a name. -/
  | member (name : String)
  /-- The item at a position. -/
  | item (position : Nat)
deriving DecidableEq, Repr

/-- How a part is named. -/
def DirectivePart.text : DirectivePart → String
  | whole => "."
  | unknown => "?"
  | member name => name
  | item position => "[" ++ Text.decimal position ++ "]"

/-- **Why a directive is refused.** -/
inductive DirectiveError where
  /-- No line begins with the marker. -/
  | missingMarker
  /-- The JSON text cannot be read as a directive. -/
  | badJson (part : DirectivePart) (reason : String)
  /-- The path is empty or left out. -/
  | emptyUrl
deriving DecidableEq, Repr

/-- The wording of a refusal. -/
def DirectiveError.message : DirectiveError → String
  | missingMarker => "missing `apigen:api` prefix"
  | badJson part reason => "at JSON path " ++ part.text ++ " → " ++ reason
  | emptyUrl => "`url` must not be empty"

/-! ## Members by type -/

/-- What the value at the front of a text is called, and what follows it. A
list or an object is named before it is read. -/
def nameValue (cs : List Char) : Except Fault (String × List Char) :=
  match cs with
  | [] => .error ⟨.endInValue, 0⟩
  | 'n' :: rest => do return ("null", ← readWord rest ['u', 'l', 'l'])
  | 't' :: rest => do return ("boolean `true`", ← readWord rest ['r', 'u', 'e'])
  | 'f' :: rest => do
    return ("boolean `false`", ← readWord rest ['a', 'l', 's', 'e'])
  | '"' :: rest => do
    let (text, rest) ← readString true 0 [] rest
    return ("string " ++ Text.quote text, rest)
  | '[' :: _ => .ok ("sequence", cs)
  | '\x7b' :: _ => .ok ("map", cs)
  | c :: rest => do
    if c = '-' ∨ c.isDigit then
      let negative := c == '-'
      match ← readNumber negative (if negative then rest else cs) with
      | (.double bits, rest) =>
        return ("floating point `" ++ doubleText bits ++ "`", rest)
      | (v, rest) => return ("integer `" ++ v.compact ++ "`", rest)
    else .error (.inside .valueExpected cs)

/-- The fault of a value of another type than the one expected. -/
def mismatch (expected : String) (cs : List Char) : Fault :=
  match nameValue cs with
  | .ok (found, rest) => .before (.mismatch found expected) rest
  | .error f => f

/-- **A text member.** -/
def readText (cs : List Char) : Except Fault (String × List Char) :=
  match skipBlanks cs with
  | '"' :: rest => readString true 0 [] rest
  | cs => .error (mismatch "a string" cs)

/-- **A yes-or-no member.** -/
def readFlag (cs : List Char) : Except Fault (Bool × List Char) :=
  match skipBlanks cs with
  | 't' :: rest => do return (true, ← readWord rest ['r', 'u', 'e'])
  | 'f' :: rest => do return (false, ← readWord rest ['a', 'l', 's', 'e'])
  | cs => .error (mismatch "a boolean" cs)

/-! ## The directive -/

/-- A directive as far as it has been read. -/
structure Draft where
  /-- The path, if given. -/
  url : Option String
  /-- Whether a token is needed, if given. -/
  auth : Option Bool
  /-- The verb, if given. -/
  verb : Option String

/-- A directive of which nothing has been read. -/
def Draft.blank : Draft := ⟨none, none, none⟩

/-- The directive of a draft. -/
def Draft.complete (d : Draft) : Directive :=
  ⟨d.url.getD "", d.auth.getD false, d.verb.getD ""⟩

/-- A reading whose faults belong to a part of the directive. -/
abbrev Reading (α : Type) := Except (DirectivePart × Fault) α

/-- A reading of one part. -/
def inPart {α : Type} (part : DirectivePart) (r : Except Fault α) : Reading α :=
  r.mapError fun f => (part, f)

/-- Where a member name begins, after the opening brace or the members before;
nothing at the end of the object. -/
def nextName (first : Bool) (cs : List Char) :
    Except Fault (Option (List Char)) :=
  match skipBlanks cs with
  | [] => .error ⟨.endInObject, 0⟩
  | '\x7d' :: _ => .ok none
  | c :: rest =>
    if first then
      if c = '"' then .ok (some rest)
      else .error (.inside .nameExpected (c :: rest))
    else if c = ',' then
      match skipBlanks rest with
      | '"' :: rest => .ok (some rest)
      | '\x7d' :: rest => .error (.inside .commaAtEnd ('\x7d' :: rest))
      | [] => .error ⟨.endInValue, 0⟩
      | rest => .error (.inside .nameExpected rest)
    else .error (.inside .objectGoesOn (c :: rest))

/-- What follows the colon after a member name. -/
def afterColon (cs : List Char) : Except Fault (List Char) :=
  match skipBlanks cs with
  | ':' :: rest => .ok rest
  | [] => .error ⟨.endInObject, 0⟩
  | rest => .error (.inside .colonExpected rest)

/-- The fault of a member that occurs again, placed behind its name and an
object that ends there. -/
def repeated (name : String) (cs : List Char) : Fault :=
  match skipBlanks cs with
  | '\x7d' :: rest => .before (.repeatedMember name) rest
  | rest => .before (.repeatedMember name) rest

/-- The members of a directive read onto a draft. -/
def readDirectiveMembers : Nat → Bool → Draft → List Char → Reading Draft
  | 0, _, _, _ => .error (.unknown, ⟨.endInObject, 0⟩)
  | n + 1, first, d, cs => do
    match ← inPart .unknown (nextName first cs) with
    | none => return d
    | some rest =>
      let (name, rest) ← inPart .unknown (readString true 0 [] rest)
      let taken :=
        (name == "url" && d.url.isSome) || (name == "auth" && d.auth.isSome)
          || (name == "method" && d.verb.isSome)
      if taken then .error (.whole, repeated name rest)
      else
        let rest ← inPart .whole (afterColon rest)
        match name with
        | "url" =>
          let (v, rest) ← inPart (.member name) (readText rest)
          readDirectiveMembers n false { d with url := some v } rest
        | "auth" =>
          let (v, rest) ← inPart (.member name) (readFlag rest)
          readDirectiveMembers n false { d with auth := some v } rest
        | "method" =>
          let (v, rest) ← inPart (.member name) (readText rest)
          readDirectiveMembers n false { d with verb := some v } rest
        | _ =>
          let rest ← inPart (.member name) (skipValue (stepBound rest) rest)
          readDirectiveMembers n false d rest

/-- Where an item of a list begins, after the opening bracket or the items
before; nothing at the end of the list. -/
def nextItem (first : Bool) (cs : List Char) :
    Except Fault (Option (List Char)) :=
  match skipBlanks cs with
  | [] => .error ⟨.endInList, 0⟩
  | ']' :: _ => .ok none
  | c :: rest =>
    if first then .ok (some (c :: rest))
    else if c = ',' then
      match skipBlanks rest with
      | ']' :: rest => .error (.inside .commaAtEnd (']' :: rest))
      | [] => .error ⟨.endInValue, 0⟩
      | rest => .ok (some rest)
    else .error (.inside .listGoesOn (c :: rest))

/-- An item of a list of values, if the list has one more, and what follows. -/
def readItem {α : Type} (position : Nat)
    (readOne : List Char → Except Fault (α × List Char)) (cs : List Char) :
    Reading (Option α × List Char) := do
  match ← inPart .whole (nextItem (position == 0) cs) with
  | none => return (none, cs)
  | some rest =>
    let (v, rest) ← inPart (.item position) (readOne rest)
    return (some v, rest)

/-- The end of a list all of whose items have been read. -/
def endOfList (cs : List Char) : Except Fault Unit :=
  match skipBlanks cs with
  | ']' :: _ => .ok ()
  | [] => .error ⟨.endInList, 0⟩
  | ',' :: rest =>
    match skipBlanks rest with
    | ']' :: rest => .error (.inside .commaAtEnd (']' :: rest))
    | rest => .error (.inside .textAfterEnd rest)
  | rest => .error (.inside .textAfterEnd rest)

/-- A directive given as a list of values, read after its bracket. -/
def readDirectiveItems (cs : List Char) : Reading Draft := do
  let (url, cs) ← readItem 0 readText cs
  let (auth, cs) ← readItem 1 readFlag cs
  let (verb, cs) ← readItem 2 readText cs
  inPart .whole (endOfList cs)
  return ⟨url, auth, verb⟩

/-- **A directive at the front of a text.** -/
def readDirective (cs : List Char) : Reading Directive := do
  match skipBlanks cs with
  | '\x7b' :: rest =>
    return (← readDirectiveMembers (cs.length + 1) true .blank rest).complete
  | '[' :: rest => return (← readDirectiveItems rest).complete
  | rest => .error (.whole, mismatch "struct MethodDirective" rest)

/-- **The directive of a documentation text.** -/
def directive (doc : String) : Except DirectiveError Directive :=
  match afterMarker? true doc.toList with
  | none => .error .missingMarker
  | some text =>
    let body := Text.trimStart text
    match readDirective body with
    | .error (part, f) => .error (.badJson part (f.message body))
    | .ok d => if d.url = "" then .error .emptyUrl else .ok d

end Switchboard.Doc
