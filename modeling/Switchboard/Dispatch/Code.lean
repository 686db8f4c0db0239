/-!
# Code and how it is laid out

Code is lines, empty lines, and blocks: a line that opens one, the code inside
and a line that closes it. It is written line by line at a depth; the code
inside a block stands one level deeper than its first and last line. Writing
leaves the depth as it was.
-/

namespace Switchboard.Dispatch

/-- **Code.** -/
inductive Code where
  /-- A line. -/
  | line (text : String)
  /-- An empty line. -/
  | blank
  /-- A block between two lines. -/
  | block (opening : String) (inside : List Code) (closing : String)

/-- **What has been written so far.** -/
structure Output where
  /-- The text. -/
  text : String
  /-- The number of blocks that are open. -/
  depth : Nat
deriving DecidableEq, Repr

namespace Output

/-- Nothing written yet. -/
def empty : Output := ⟨"", 0⟩

/-- The blanks before a line at a depth: four for each level. -/
def indentation (depth : Nat) : String :=
  String.ofList (List.replicate (4 * depth) ' ')

/-- A line written at the present depth. -/
def line (o : Output) (text : String) : Output :=
  { o with text := o.text ++ indentation o.depth ++ text ++ "\n" }

/-- An empty line written. -/
def blank (o : Output) : Output := { o with text := o.text ++ "\n" }

/-- One level deeper. -/
def deeper (o : Output) : Output := { o with depth := o.depth + 1 }

/-- One level up. -/
def higher (o : Output) : Output := { o with depth := o.depth - 1 }

mutual

/-- **Code written.** -/
def write (o : Output) : Code → Output
  | .line text => o.line text
  | .blank => o.blank
  | .block opening inside closing =>
    (((o.line opening).deeper.writeAll inside).higher).line closing

/-- Pieces of code written one after the other. -/
def writeAll (o : Output) : List Code → Output
  | [] => o
  | c :: rest => (o.write c).writeAll rest

end

mutual

/-- **Writing code leaves the depth as it was.** -/
@[simp]
theorem depth_write (o : Output) (c : Code) : (o.write c).depth = o.depth := by
  cases c with
  | line text => simp [write, line]
  | blank => simp [write, blank]
  | block opening inside closing =>
    simp [write, line, deeper, higher, depth_writeAll]

@[simp]
theorem depth_writeAll (o : Output) (cs : List Code) :
    (o.writeAll cs).depth = o.depth := by
  cases cs with
  | nil => simp [writeAll]
  | cons c rest => simp [writeAll, depth_writeAll, depth_write]

end

end Output

/-- Pieces of code with an empty line between them. -/
def spaced : List Code → List Code
  | [] => []
  | [c] => [c]
  | c :: next :: rest => c :: .blank :: spaced (next :: rest)

end Switchboard.Dispatch
