import Switchboard.Text.Pieces

/-!
# File paths

A path is the steps that lead to a file, from the root or from where the
program works. A step is a name, a dot, which stays, or two dots, which lead
up. Steps that stay are of no account in the parts of a path, except at its
beginning.

A path is given as a text. File systems know names that are no text, of bytes that
encode none; a path with such a name is left out, and so is the text that stands for
it where it is shown.
-/

namespace Switchboard.Files

/-- **A path.** -/
structure Path where
  /-- Whether it leads from the root. -/
  rooted : Bool
  /-- Its steps. -/
  steps : List String
  /-- Whether a slash follows the last step. -/
  slash : Bool
deriving DecidableEq, Repr

namespace Path

/-- The steps of a text: what stands between slashes. -/
def stepsOf (text : String) : List String :=
  ((Text.pieces '/' text.toList).filter (!·.isEmpty)).map String.ofList

/-- **The path of a text.** -/
def ofText (text : String) : Path where
  rooted := text.toList.head? = some '/'
  steps := stepsOf text
  slash := !(stepsOf text).isEmpty && text.toList.getLast? = some '/'

/-- **The parts of a path**: its steps without those that stay, unless the path
begins with one. -/
def parts (p : Path) : List String :=
  match p.rooted, p.steps with
  | false, "." :: rest => "." :: rest.filter (· ≠ ".")
  | _, steps => steps.filter (· ≠ ".")

/-- The path without its last part, if it has one. -/
def parent? (p : Path) : Option Path :=
  if p.parts.isEmpty then none else some ⟨p.rooted, p.parts.dropLast, false⟩

/-- Whether a path has nothing in it. -/
def isNothing (p : Path) : Bool := !p.rooted && p.steps.isEmpty

/-- The name a path ends with, if its last part is a name. -/
def fileName? (p : Path) : Option String :=
  p.parts.getLast?.filter fun name => name ≠ "." && name ≠ ".."

end Path

/-- **A file name without its extension**: what stands before its last dot,
unless nothing does. -/
def stemOf (name : String) : String :=
  match name.toList.reverse.dropWhile (· ≠ '.') with
  | [] | [_] => name
  | _ :: stem => String.ofList stem.reverse

end Switchboard.Files
