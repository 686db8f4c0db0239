import Switchboard.Text.Decimal

/-!
# Places in a source file

A declaration is placed by its file, its line and its column, the latter two
counted from one and in characters.
-/

namespace Switchboard

/-- **A place in a source file.** -/
structure Location where
  /-- The file, as it was named. -/
  file : String
  /-- The line, from one. -/
  line : Nat
  /-- The column, from one, in characters. -/
  column : Nat
deriving DecidableEq, Repr

/-- How a place is written in messages. -/
def Location.text (l : Location) : String :=
  l.file ++ ":" ++ Text.decimal l.line ++ ":" ++ Text.decimal l.column

end Switchboard
