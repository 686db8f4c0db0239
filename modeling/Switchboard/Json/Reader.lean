import Switchboard.Json.Scan

/-!
# Reading JSON values

A value is read off the front of a text. Of the members of an object that
share a name the last one counts, at the place of the first.

A value that nobody asks for is only skipped, which checks its form. Each
opening bracket costs two steps at most, so a bound of twice the length of the
text and two more is never reached.
-/

namespace Switchboard.Json

mutual

/-- **The value at the front of a text**, and what follows it. -/
def readValue : Nat → List Char → Except Fault (Json × List Char)
  | 0, _ => .error ⟨.endInValue, 0⟩
  | n + 1, cs =>
    match skipBlanks cs with
    | [] => .error ⟨.endInValue, 0⟩
    | 'n' :: rest => do return (.null, ← readWord rest ['u', 'l', 'l'])
    | 't' :: rest => do return (.bool true, ← readWord rest ['r', 'u', 'e'])
    | 'f' :: rest => do return (.bool false, ← readWord rest ['a', 'l', 's', 'e'])
    | '"' :: rest => do
      let (text, rest) ← readString true 0 [] rest
      return (.string text, rest)
    | '[' :: rest =>
      match skipBlanks rest with
      | ']' :: rest => .ok (.array [], rest)
      | rest => do
        let (items, rest) ← readItems n rest
        return (.array items, rest)
    | '\x7b' :: rest =>
      match skipBlanks rest with
      | '\x7d' :: rest => .ok (.object [], rest)
      | rest => do
        let (members, rest) ← readMembers n [] rest
        return (.object members, rest)
    | '-' :: rest => readNumber true rest
    | c :: rest =>
      if c.isDigit then readNumber false (c :: rest)
      else .error (.inside .valueExpected (c :: rest))

/-- The items of a list, up to its closing bracket. -/
def readItems : Nat → List Char → Except Fault (List Json × List Char)
  | 0, _ => .error ⟨.endInList, 0⟩
  | n + 1, cs => do
    let (v, rest) ← readValue n cs
    match skipBlanks rest with
    | ',' :: rest =>
      let (items, rest) ← readItems n rest
      return (v :: items, rest)
    | ']' :: rest => return ([v], rest)
    | [] => .error ⟨.endInList, 0⟩
    | rest => .error (.inside .listGoesOn rest)

/-- The members of an object, up to its closing brace, put in after those read
before. -/
def readMembers : Nat → List (String × Json) → List Char →
    Except Fault (List (String × Json) × List Char)
  | 0, _, _ => .error ⟨.endInObject, 0⟩
  | n + 1, members, cs =>
    match skipBlanks cs with
    | '"' :: rest => do
      let (name, rest) ← readString true 0 [] rest
      match skipBlanks rest with
      | ':' :: rest =>
        let (v, rest) ← readValue n rest
        let members := setMember name v members
        match skipBlanks rest with
        | ',' :: rest => readMembers n members rest
        | '\x7d' :: rest => return (members, rest)
        | [] => .error ⟨.endInObject, 0⟩
        | rest => .error (.inside .objectGoesOn rest)
      | [] => .error ⟨.endInObject, 0⟩
      | rest => .error (.inside .colonExpected rest)
    | [] => .error ⟨.endInObject, 0⟩
    | rest => .error (.inside .nameExpected rest)

end

/-- Steps that suffice to read or skip a value. -/
def stepBound (cs : List Char) : Nat := 2 * cs.length + 2

/-- **The value a whole text denotes**, blanks around it allowed. -/
def read (text : String) : Except Fault Json := do
  let cs := text.toList
  let (v, rest) ← readValue (stepBound cs) cs
  match skipBlanks rest with
  | [] => return v
  | rest => .error (.inside .textAfterEnd rest)

mutual

/-- **What follows the value at the front of a text.** -/
def skipValue : Nat → List Char → Except Fault (List Char)
  | 0, _ => .error ⟨.endInValue, 0⟩
  | n + 1, cs =>
    match skipBlanks cs with
    | [] => .error ⟨.endInValue, 0⟩
    | 'n' :: rest => readWord rest ['u', 'l', 'l']
    | 't' :: rest => readWord rest ['r', 'u', 'e']
    | 'f' :: rest => readWord rest ['a', 'l', 's', 'e']
    | '"' :: rest => (readString false 0 [] rest).map Prod.snd
    | '[' :: rest =>
      match skipBlanks rest with
      | ']' :: rest => .ok rest
      | [] => .error ⟨.endInList, 0⟩
      | rest => skipItems n rest
    | '\x7b' :: rest =>
      match skipBlanks rest with
      | '\x7d' :: rest => .ok rest
      | [] => .error ⟨.endInObject, 0⟩
      | rest => skipMembers n rest
    | '-' :: rest => (readNumeral .badNumber rest).map Prod.snd
    | c :: rest =>
      if c.isDigit then (readNumeral .badNumber (c :: rest)).map Prod.snd
      else .error (.inside .valueExpected (c :: rest))

/-- What follows the closing bracket of a list, given from an item on. -/
def skipItems : Nat → List Char → Except Fault (List Char)
  | 0, _ => .error ⟨.endInList, 0⟩
  | n + 1, cs => do
    match skipBlanks (← skipValue n cs) with
    | ',' :: rest => skipItems n rest
    | ']' :: rest => return rest
    | [] => .error ⟨.endInList, 0⟩
    | rest => .error (.inside .listGoesOn rest)

/-- What follows the closing brace of an object, given from a member on. -/
def skipMembers : Nat → List Char → Except Fault (List Char)
  | 0, _ => .error ⟨.endInObject, 0⟩
  | n + 1, cs =>
    match skipBlanks cs with
    | '"' :: rest => do
      let (_, rest) ← readString false 0 [] rest
      match skipBlanks rest with
      | ':' :: rest =>
        match skipBlanks (← skipValue n rest) with
        | ',' :: rest => skipMembers n rest
        | '\x7d' :: rest => return rest
        | [] => .error ⟨.endInObject, 0⟩
        | rest => .error (.inside .objectGoesOn rest)
      | [] => .error ⟨.endInObject, 0⟩
      | rest => .error (.inside .colonExpected rest)
    | [] => .error ⟨.endInObject, 0⟩
    | rest => .error (.inside .nameExpected rest)

end

end Switchboard.Json
