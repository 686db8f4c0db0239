import Switchboard.Api.Document
import Switchboard.Generation

/-!
# The command line

The program is told the source file and the file to generate, and takes a few
options before, between and after them. Two hyphens end the options. What it is
told wrongly ends it with code two, a refusal to generate with code one.
-/

namespace Switchboard.CommandLine

open Files

/-- How much is logged. -/
inductive LogLevel where
  /-- Errors. -/
  | error
  /-- Warnings too. -/
  | warn
  /-- What was done too. -/
  | info
  /-- What was found too. -/
  | debug
  /-- What was passed over too. -/
  | trace
deriving DecidableEq, Repr

/-- The name of a level. -/
def LogLevel.name : LogLevel → String
  | error => "Error"
  | warn => "Warn"
  | info => "Info"
  | debug => "Debug"
  | trace => "Trace"

/-- The levels, in order. -/
def levels : List LogLevel := [.error, .warn, .info, .debug, .trace]

/-- An ASCII letter in lower case. -/
def lowerAscii (text : String) : List Char := text.toList.map Char.toLower

/-- **The level of an argument**: a name in any case, or a number from one. -/
def LogLevel.read? (text : String) : Option LogLevel :=
  match Text.uint64? text.toList with
  | some (n + 1) => levels[n]?
  | some 0 => none
  | none => levels.find? fun l => lowerAscii l.name == lowerAscii text

/-- **What the program is told to do.** -/
structure Options where
  /-- The source file. -/
  input : String
  /-- The file to generate. -/
  output : String
  /-- Whether the API is shown as a document. -/
  dump : Bool
  /-- How much is logged. -/
  level : LogLevel
  /-- Whether nothing is done but show the options. -/
  idle : Bool
deriving DecidableEq, Repr

/-- **What the arguments ask for.** -/
inductive Request where
  /-- To generate, or to show the options. -/
  | work (options : Options)
  /-- The version. -/
  | version
  /-- Help. -/
  | help
  /-- Nothing that makes sense. -/
  | misuse
deriving DecidableEq, Repr

/-- What the arguments have said so far. -/
structure Said where
  /-- The files, the last one first. -/
  files : List String
  /-- Whether the API is to be shown. -/
  dump : Bool
  /-- How much is to be logged, if it was said. -/
  level : Option LogLevel
  /-- Whether nothing is to be done. -/
  idle : Bool

/-- Nothing said yet. -/
def Said.nothing : Said := ⟨[], false, none, false⟩

/-- What was said in the end. -/
def Said.request (s : Said) : Request :=
  match s.files with
  | [output, input] =>
    .work ⟨input, output, s.dump, s.level.getD .warn, s.idle⟩
  | _ => .misuse

/-- One more file said; there are two, and they have names. -/
def Said.file? (s : Said) (name : String) : Option Said :=
  if name.isEmpty || s.files.length ≥ 2 then none
  else some { s with files := name :: s.files }

/-- The level said, which may be said once. -/
def Said.level? (s : Said) (text : String) : Option Said :=
  match s.level, LogLevel.read? text with
  | none, some l => some { s with level := some l }
  | _, _ => none

/-- The value of an option that is given behind an equals sign. -/
def attached? (option argument : String) : Option String :=
  let cs := (option ++ "=").toList
  if cs.isPrefixOf argument.toList then
    some (String.ofList (argument.toList.drop cs.length))
  else none

/-- Whether an argument is an option and no file. -/
def isOption (argument : String) : Bool :=
  match argument.toList with
  | '-' :: _ :: _ => true
  | _ => false

/-- What comes of an argument with one more thing said. -/
def onward (said : Option Said) (next : Said → Request) : Request :=
  (said.map next).getD .misuse

/-- Reads arguments that are files whatever they begin with. -/
def readFiles (s : Said) : List String → Request
  | [] => s.request
  | a :: rest => onward (s.file? a) fun s => readFiles s rest

/-- **Reads arguments.** -/
def readArguments (s : Said) : List String → Request
  | [] => s.request
  | "--" :: rest => readFiles s rest
  | "--dump-ir" :: rest =>
    if s.dump then .misuse else readArguments { s with dump := true } rest
  | "--no-op" :: rest =>
    if s.idle then .misuse else readArguments { s with idle := true } rest
  | ["--log-level"] => .misuse
  | "--log-level" :: value :: rest =>
    if isOption value then .misuse
    else onward (s.level? value) fun s => readArguments s rest
  | "--version" :: _ => .version
  | "--help" :: _ => .help
  | a :: rest =>
    match attached? "--log-level" a with
    | some value => onward (s.level? value) fun s => readArguments s rest
    | none =>
      match a.toList with
      | '-' :: 'V' :: _ => .version
      | '-' :: 'h' :: _ => .help
      | _ =>
        if isOption a then .misuse
        else onward (s.file? a) fun s => readArguments s rest

/-- **What arguments ask for.** -/
def request (arguments : List String) : Request :=
  readArguments .nothing arguments

/-! ## What is printed -/

/-- **What the program leaves behind**: its code and what it has printed. -/
structure Report where
  /-- The code it ends with. -/
  code : Nat
  /-- What went to the standard output. -/
  out : String
  /-- What went to the standard error. -/
  err : String
deriving DecidableEq, Repr

/-- The version, as it is printed. -/
def versionText : String := "apigen 0.1.0\n"

/-- How the program is used. -/
def usageText : String := "Usage: apigen [OPTIONS] <INPUT> <OUTPUT>\n"

/-- The options, as they are shown. -/
def Options.text (o : Options) : String :=
  "CommandLineInterface \x7b\n"
    ++ "    input: " ++ Text.quotePath o.input ++ ",\n"
    ++ "    output: " ++ Text.quotePath o.output ++ ",\n"
    ++ "    dump_ir: " ++ Dispatch.flagText o.dump ++ ",\n"
    ++ "    log_level: Level(\n        " ++ o.level.name ++ ",\n    ),\n"
    ++ "    no_op: " ++ Dispatch.flagText o.idle ++ ",\n"
    ++ "\x7d\n"

/-- What is printed when generating is refused. -/
def refusalText (o : Options) (e : GenerationError) : String :=
  "error: failed to generate " ++ o.output ++ " from " ++ o.input ++ ": "
    ++ e.message ++ "\n"

/-- The API as it is printed. -/
def apiText (api : Api) : String := Json.pretty 0 api.document ++ "\n"

/-- What is left behind after generating. -/
def Options.report (o : Options) : Except GenerationError Api → Report
  | .ok api => ⟨0, if o.dump then apiText api else "", ""⟩
  | .error e => ⟨1, "", refusalText o e⟩

/-- **What is done at a request.** -/
inductive Plan where
  /-- Code is generated. -/
  | generate (options : Options)
  /-- Something is printed. -/
  | print (report : Report)

/-- What is done at a request. -/
def Request.plan : Request → Plan
  | .work o => if o.idle then .print ⟨0, "", o.text⟩ else .generate o
  | .version => .print ⟨0, versionText, ""⟩
  | .help => .print ⟨0, usageText, ""⟩
  | .misuse => .print ⟨2, "", usageText⟩

/-- **Runs the program** on a tree of files. -/
def run (t : Tree) (arguments : List String) : Tree × Report :=
  match (request arguments).plan with
  | .print report => (t, report)
  | .generate o =>
    let (t, result) := generateFile t o.input o.output
    (t, o.report result)

end Switchboard.CommandLine
