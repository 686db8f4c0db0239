/-!
# Cutting a text

A text is cut at every occurrence of a separator, at the first one only, or
into its lines. Cutting everywhere always yields at least one piece; joining
the pieces gives the text back. A text is a list of characters, or of bytes
where its encoding matters.
-/

namespace Switchboard.Text

/-- **The pieces of a text between occurrences of a separator**, empty pieces
included. -/
def pieces {α : Type} [DecidableEq α] (sep : α) : List α → List (List α)
  | [] => [[]]
  | c :: rest =>
    if c = sep then [] :: pieces sep rest
    else match pieces sep rest with
      | [] => [[c]]
      | p :: ps => (c :: p) :: ps

/-- **A text cut at the first occurrence of a separator**, if there is one. -/
def cut? {α : Type} [DecidableEq α] (sep : α) : List α → Option (List α × List α)
  | [] => none
  | c :: rest =>
    if c = sep then some ([], rest)
    else (cut? sep rest).map fun (before, after) => (c :: before, after)

/-- A line without the carriage return that ends it. -/
def dropReturn (line : List Char) : List Char :=
  if line.getLast? = some '\r' then line.dropLast else line

/-- The lines among the pieces between line feeds. What follows the last line
feed is a line only when it holds a character, and it keeps a carriage return
at its end. -/
def linesOfPieces : List (List Char) → List (List Char)
  | [] => []
  | [tail] => if tail.isEmpty then [] else [tail]
  | line :: next :: rest => dropReturn line :: linesOfPieces (next :: rest)

/-- **The lines of a text**, without their line feeds and the carriage returns
before these. -/
def lines (s : String) : List String :=
  (linesOfPieces (pieces '\n' s.toList)).map String.ofList

/-- Texts joined with a separator between them. -/
def join (sep : String) (parts : List String) : String :=
  sep.intercalate parts

/-- Whether a text occurs inside another. -/
def occursIn (needle : List Char) : List Char → Bool
  | [] => needle.isEmpty
  | c :: rest => needle.isPrefixOf (c :: rest) || occursIn needle rest

end Switchboard.Text
