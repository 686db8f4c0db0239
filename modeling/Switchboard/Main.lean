import Switchboard.CommandLine

/-!
# The program

The outer layer: it reads the source file, has the code generated, writes it,
and prints the report. All decisions are made elsewhere.
-/

namespace Switchboard.CommandLine

/-- The failure that a refusal of the system stands for. -/
def fileErrorOf : IO.Error → FileError
  | .noFileOrDirectory _ _ _ => .missing
  | .alreadyExists _ _ _ => .alreadyThere
  | .inappropriateType _ _ _ => .isADirectory
  | _ => .notADirectory

/-- An action of the system with its refusal as a failure. -/
def attempt {α : Type} (onError : FileError → GenerationError) (act : IO α) :
    ExceptT GenerationError IO α := do
  match ← act.toBaseIO with
  | .ok a => return a
  | .error e => throw (onError (fileErrorOf e))

/-- Generates code from one file of the system into another. -/
def generateOnSystem (o : Options) : ExceptT GenerationError IO Api := do
  let bytes ← attempt (.read o.input) (IO.FS.readBinFile o.input)
  match Text.textOfUtf8? bytes.toList with
  | none => throw (.read o.input .notText)
  | some source =>
    let p := Files.Path.ofText o.input
    let (api, text) ← ExceptT.mk (pure (generate source o.input (moduleName p)))
    let directory := (Files.Path.ofText o.output).parent?
    match directory with
    | some d =>
      if !d.isNothing then
        let name := (if d.rooted then "/" else "") ++ Text.join "/" d.steps
        attempt (.write o.output) (IO.FS.createDirAll name)
    | none => pure ()
    attempt (.write o.output) (IO.FS.writeFile o.output text)
    return api

end Switchboard.CommandLine

open Switchboard.CommandLine in
/-- **The program.** -/
def main (arguments : List String) : IO UInt32 := do
  let report ← match (request arguments).plan with
    | .print report => pure report
    | .generate o => o.report <$> (generateOnSystem o).run
  (← IO.getStdout).putStr report.out
  (← IO.getStderr).putStr report.err
  return UInt32.ofNat report.code
