import Switchboard.Files.Path
import Switchboard.GenerationError
import Switchboard.Text.Utf8

/-!
# A tree of files

Every place of the tree is named by the directories that lead to it from the
root. A path is walked step by step, each from a directory that is there. The
program works in a directory without a name, directly below the root, so that no
path leads into it from above.

Writing a file replaces what it held. Directories are made on the way to a
file, from the deepest one that is there; those made before a failure stay.

There are directories and files and nothing else. Links are left out: a place has one
name only, and two dots lead back to where the step before them came from.
-/

namespace Switchboard.Files

/-- **What is at a place.** -/
inductive Node where
  /-- A directory. -/
  | directory
  /-- A file with its bytes. -/
  | file (content : List UInt8)
deriving DecidableEq, Repr

/-- **A place**: the names that lead to it from the root. -/
abbrev Place := List String

/-- Where the program works. -/
def workingPlace : Place := [""]

/-- **A tree of files.** -/
structure Tree where
  /-- What is at the places below the root. -/
  nodes : List (Place × Node)
deriving DecidableEq, Repr

/-- The nodes with one put at a place. -/
def putNode (place : Place) (node : Node) :
    List (Place × Node) → List (Place × Node)
  | [] => [(place, node)]
  | (q, n) :: rest =>
    if q = place then (q, node) :: rest else (q, n) :: putNode place node rest

namespace Tree

/-- The tree with nothing but the directory the program works in. -/
def empty : Tree := ⟨[(workingPlace, .directory)]⟩

/-- **What is at a place of a tree**; the root is a directory. -/
def node? (t : Tree) (place : Place) : Option Node :=
  if place = [] then some .directory else t.nodes.lookup place

/-- A tree with a node put at a place. -/
def put (t : Tree) (place : Place) (node : Node) : Tree :=
  ⟨putNode place node t.nodes⟩

/-- Nothing, where a directory is at a place. -/
def requireDirectory (t : Tree) (place : Place) : Except FileError Unit :=
  match t.node? place with
  | none => .error .missing
  | some (.file _) => .error .notADirectory
  | some .directory => .ok ()

/-- Where a step leads from a place. -/
def stepFrom (place : Place) (step : String) : Place :=
  if step = "." then place
  else if step = ".." then place.dropLast
  else place ++ [step]

/-- A step from a directory. -/
def step (t : Tree) (place : Place) (s : String) : Except FileError Place := do
  t.requireDirectory place
  return stepFrom place s

/-- Where a path begins. -/
def start (p : Path) : Place := if p.rooted then [] else workingPlace

/-- **The place a path leads to**, which need not be there. -/
def walk (t : Tree) (p : Path) : Except FileError Place :=
  p.steps.foldlM t.step (start p)

/-- The directory that the last step of a path is taken from, and that step. -/
def approach (t : Tree) (p : Path) : Except FileError (Place × Option String) := do
  let place ← p.steps.dropLast.foldlM t.step (start p)
  t.requireDirectory place
  return (place, p.steps.getLast?)

/-- Whether a step leads to a name. -/
def isName (s : String) : Bool := s ≠ "." && s ≠ ".."

/-- **The bytes of the file at a path.** -/
def read (t : Tree) (p : Path) : Except FileError (List UInt8) := do
  if p.isNothing then throw .missing
  let place ← t.walk p
  match t.node? place with
  | none => throw .missing
  | some .directory => throw .isADirectory
  | some (.file content) =>
    if p.slash then throw .notADirectory else return content

/-- Whether a path leads to a directory. -/
def isDirectory (t : Tree) (p : Path) : Bool :=
  match t.walk p with
  | .ok place => t.node? place = some .directory
  | .error _ => false

/-- **A directory made at a path.** -/
def makeDirectory (t : Tree) (p : Path) : Except FileError Tree := do
  let (place, last) ← t.approach p
  match last with
  | none => throw .alreadyThere
  | some s =>
    if !isName s || (t.node? (place ++ [s])).isSome then throw .alreadyThere
    else return t.put (place ++ [s]) .directory

/-- A directory that is there or is made, if those above it are there. -/
def ensureDirectory (t : Tree) (p : Path) : Except FileError Tree :=
  match t.makeDirectory p with
  | .ok t => .ok t
  | .error .alreadyThere =>
    if t.isDirectory p then .ok t else .error .alreadyThere
  | .error e => .error e

/-- The directories at a path and above it, made where they are missing; the
path is given by its steps in reverse. -/
def ensureAll (t : Tree) (rooted : Bool) : List String → Tree × Option FileError
  | [] => (t, none)
  | s :: above =>
    let p : Path := ⟨rooted, (s :: above).reverse, false⟩
    match t.ensureDirectory p with
    | .ok t => (t, none)
    | .error .missing =>
      match ensureAll t rooted above with
      | (t, some e) => (t, some e)
      | (t, none) =>
        match t.ensureDirectory p with
        | .ok t => (t, none)
        | .error e => (t, some e)
    | .error e => (t, some e)

/-- **The directories on the way to a path**, made where they are missing. -/
def ensureParents (t : Tree) (p : Path) : Tree × Option FileError :=
  match p.parent? with
  | some q => t.ensureAll q.rooted q.steps.reverse
  | none => (t, none)

/-- **Bytes written to the file at a path.** -/
def write (t : Tree) (p : Path) (content : List UInt8) : Except FileError Tree := do
  if p.isNothing then throw .missing
  let (place, last) ← t.approach p
  match last with
  | none => throw .isADirectory
  | some s =>
    if p.slash || !isName s || t.node? (place ++ [s]) = some .directory then
      throw .isADirectory
    else return t.put (place ++ [s]) (.file content)

/-- **Bytes saved at a path**, with the directories on the way. -/
def save (t : Tree) (p : Path) (content : List UInt8) : Tree × Option FileError :=
  match t.ensureParents p with
  | (t, some e) => (t, some e)
  | (t, none) =>
    match t.write p content with
    | .ok t => (t, none)
    | .error e => (t, some e)

/-- The text of the file at a path. -/
def readText (t : Tree) (p : Path) : Except FileError String := do
  match Text.textOfUtf8? (← t.read p) with
  | some text => return text
  | none => throw .notText

end Tree

end Switchboard.Files
