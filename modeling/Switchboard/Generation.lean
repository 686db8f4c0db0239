import Switchboard.Api.Build
import Switchboard.Dispatch.Module
import Switchboard.Files.Tree

/-!
# From a source file to its dispatch code

The module of a source file is named after the file, or after its directory
where the file only stands for that. The code is made from the source before
anything is written, so that a source that is refused leaves all files as they
were.

The two paths are given as texts, and the one of the source is the label of its
places and of its banner as it stands. What is left out are paths that are no text,
which would be shown with other characters in their place, and links in the tree of
files, by which a source could be read at another place than its path names.
-/

namespace Switchboard

open Files

/-- **The module a source file is**, by its path. -/
def moduleName (p : Path) : String :=
  let stem := (p.fileName?.map stemOf).getD ""
  if stem = "mod" then ((p.parent?.bind Path.fileName?).getD stem)
  else if stem = "main" || stem = "lib" then "crate"
  else stem

/-- **The API and the dispatch code of a source.** -/
def generate (source file moduleName : String) :
    Except GenerationError (Api × String) := do
  let api ← Api.ofSource moduleName source file
  return (api, ← Dispatch.render api file)

/-- The API and the dispatch code of the source file at a path. -/
def generateFrom (t : Tree) (input : String) : Except GenerationError (Api × String) := do
  let p := Path.ofText input
  let source ← (t.readText p).mapError (.read input)
  generate source input (moduleName p)

/-- **Dispatch code generated from one file into another**: the files after
that, and the API or the refusal. -/
def generateFile (t : Tree) (input output : String) :
    Tree × Except GenerationError Api :=
  match generateFrom t input with
  | .error e => (t, .error e)
  | .ok (api, text) =>
    match t.save (Path.ofText output) (Text.utf8 text) with
    | (t, none) => (t, .ok api)
    | (t, some e) => (t, .error (.write output e))

end Switchboard
