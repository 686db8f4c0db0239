import Switchboard.Json.Double
import Switchboard.Text.Pieces

/-!
# JSON values and their text

A JSON value keeps the members of an object in the order they were written.
Numbers are integers wherever they can be; the rest are doubles, held by their
bits.

A value is written without blanks, or over several lines with two spaces per
level. In strings the quote, the backslash and the controls are escaped, the
common controls by a letter; everything else stands as itself.
-/

namespace Switchboard

/-- **A JSON value.** -/
inductive Json where
  /-- `null`. -/
  | null
  /-- `true` or `false`. -/
  | bool (b : Bool)
  /-- An integer. -/
  | int (n : Int)
  /-- Any other number, by the bits of its double. -/
  | double (bits : UInt64)
  /-- A string. -/
  | string (s : String)
  /-- A list of values. -/
  | array (items : List Json)
  /-- Members by name, in order. -/
  | object (members : List (String × Json))

namespace Json

/-- The member list with a member replaced in place, or appended when new. -/
def setMember (name : String) (value : Json) :
    List (String × Json) → List (String × Json)
  | [] => [(name, value)]
  | (n, v) :: rest =>
    if n = name then (n, value) :: rest
    else (n, v) :: setMember name value rest

/-- A text value or `null`. -/
def ofOption {α : Type} (f : α → Json) : Option α → Json
  | none => .null
  | some a => f a

/-- **How a character is written inside a JSON string.** -/
def escapeChar (c : Char) : List Char :=
  if c = '"' then ['\\', '"']
  else if c = '\\' then ['\\', '\\']
  else if c = '\n' then ['\\', 'n']
  else if c = '\r' then ['\\', 'r']
  else if c = '\t' then ['\\', 't']
  else if c = '\x08' then ['\\', 'b']
  else if c = '\x0c' then ['\\', 'f']
  else if c.toNat < 16 then ['\\', 'u', '0', '0', '0', Nat.digitChar c.toNat]
  else if c.toNat < 32 then ['\\', 'u', '0', '0', '1', Nat.digitChar (c.toNat - 16)]
  else [c]

/-- **A text as a JSON string.** -/
def stringText (s : String) : String :=
  String.ofList ('"' :: s.toList.flatMap escapeChar ++ ['"'])

mutual

/-- **The compact text of a value.** -/
def compact : Json → String
  | .null => "null"
  | .bool b => if b then "true" else "false"
  | .int n => Text.decimal n
  | .double bits => doubleText bits
  | .string s => stringText s
  | .array items => "[" ++ Text.join "," (compactItems items) ++ "]"
  | .object members => "\x7b" ++ Text.join "," (compactMembers members) ++ "\x7d"

/-- The compact texts of the items of a list. -/
def compactItems : List Json → List String
  | [] => []
  | v :: rest => compact v :: compactItems rest

/-- The compact texts of the members of an object. -/
def compactMembers : List (String × Json) → List String
  | [] => []
  | (n, v) :: rest => (stringText n ++ ":" ++ compact v) :: compactMembers rest

end

/-- The line break and indentation of a level. -/
def newline (level : Nat) : String :=
  "\n" ++ String.ofList (List.replicate (2 * level) ' ')

mutual

/-- **The text of a value over several lines**, two spaces to a level. -/
def pretty (level : Nat) : Json → String
  | .array [] => "[]"
  | .object [] => "\x7b\x7d"
  | .array items =>
    "[" ++ Text.join "," (prettyItems (level + 1) items) ++ newline level ++ "]"
  | .object members =>
    "\x7b" ++ Text.join "," (prettyMembers (level + 1) members) ++ newline level
      ++ "\x7d"
  | .null => "null"
  | .bool b => if b then "true" else "false"
  | .int n => Text.decimal n
  | .double bits => doubleText bits
  | .string s => stringText s

/-- The texts of the items of a list, each on lines of its own. -/
def prettyItems (level : Nat) : List Json → List String
  | [] => []
  | v :: rest => (newline level ++ pretty level v) :: prettyItems level rest

/-- The texts of the members of an object, each on lines of its own. -/
def prettyMembers (level : Nat) : List (String × Json) → List String
  | [] => []
  | (n, v) :: rest =>
    (newline level ++ stringText n ++ ": " ++ pretty level v)
      :: prettyMembers level rest

end

end Json

end Switchboard
