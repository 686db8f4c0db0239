import Switchboard.Doc.Constraints
import Switchboard.Doc.Directive

/-!
# Why no dispatch code is generated

Every refusal ends the run. One about a declaration names its place, and the
declaration itself; one about a file names the file.
-/

namespace Switchboard

/-- **Why a file cannot be read or written.** -/
inductive FileError where
  /-- There is nothing at the path. -/
  | missing
  /-- The path leads through a file. -/
  | notADirectory
  /-- A directory is at the path. -/
  | isADirectory
  /-- A file is where a directory is to be made. -/
  | alreadyThere
  /-- The bytes are no UTF-8 text. -/
  | notText
deriving DecidableEq, Repr

/-- The wording of a refusal to read or write. -/
def FileError.message : FileError → String
  | missing => "No such file or directory (os error 2)"
  | notADirectory => "Not a directory (os error 20)"
  | isADirectory => "Is a directory (os error 21)"
  | alreadyThere => "File exists (os error 17)"
  | notText => "stream did not contain valid UTF-8"

/-- **What is wrong with the signature of a method.** -/
inductive SignatureFault where
  /-- The block of methods has generic parameters. -/
  | genericBlock
  /-- The type it belongs to has no name. -/
  | namelessReceiver
  /-- It is asynchronous. -/
  | asynchronous
  /-- It has generic parameters. -/
  | generic
  /-- It does not take its receiver as a shared reference. -/
  | receiver
  /-- It has too few or too many parameters. -/
  | arity
  /-- The first of two parameters is no context. -/
  | context
  /-- The last parameter is bound by more than a name. -/
  | pattern
  /-- The type of the last parameter has no name. -/
  | namelessRecord
  /-- It does not return a result. -/
  | result
deriving DecidableEq, Repr

/-- The wording of what is wrong with a signature. -/
def SignatureFault.message : SignatureFault → String
  | genericBlock => "generic impl blocks are not supported"
  | namelessReceiver => "the receiver must be a named type"
  | asynchronous => "async handlers are not supported"
  | generic => "generic handlers are not supported"
  | receiver => "the receiver must be \x60&self\x60"
  | arity => "expected \x60(params)\x60 or \x60(ctx, params)\x60"
  | context => "the context parameter must be \x60Context\x60 or \x60&Context\x60"
  | pattern => "the params argument must be a plain identifier"
  | namelessRecord => "the params argument must be a named record"
  | result => "the return type must be \x60Result<T, E>\x60"

/-- **Why no dispatch code is generated.** -/
inductive GenerationError where
  /-- The source file cannot be read. -/
  | read (path : String) (cause : FileError)
  /-- The result cannot be written. -/
  | write (path : String) (cause : FileError)
  /-- The source is no sequence of tokens. -/
  | badTokens (location : Location)
  /-- The tokens are no source file. -/
  | badGrammar (location : Location)
  /-- An annotated field is of a type that no form can fill. -/
  | unsupportedKind (location : Location) (record field type : String)
  /-- The constraints of a field are refused. -/
  | invalidTag (location : Location) (record field : String)
      (reason : Doc.TagError)
  /-- The directive of a handler is refused. -/
  | invalidDirective (location : Location) (receiver handler : String)
      (reason : Doc.DirectiveError)
  /-- A method with a directive cannot be a handler. -/
  | unsupportedSignature (location : Location) (receiver handler : String)
      (reason : SignatureFault)
  /-- There is no record of the name that a handler takes. -/
  | unresolvedRecord (location : Location) (receiver handler record : String)
deriving DecidableEq, Repr

/-- A text between backticks. -/
def ticked (text : String) : String := "\x60" ++ text ++ "\x60"

/-- **The wording of a refusal.** -/
def GenerationError.message : GenerationError → String
  | read path cause => "failed to read " ++ path ++ ": " ++ cause.message
  | write path cause => "failed to write " ++ path ++ ": " ++ cause.message
  | badTokens location =>
    location.text
      ++ ": failed to parse source: cannot parse string into token stream"
  | badGrammar location => location.text ++ ": failed to parse source"
  | unsupportedKind location record field type =>
    location.text ++ ": unsupported field kind " ++ ticked type ++ " for "
      ++ ticked (record ++ "." ++ field) ++ " (expected String, i64 or u64)"
  | invalidTag location record field reason =>
    location.text ++ ": invalid apivalidator tag on "
      ++ ticked (record ++ "." ++ field) ++ ": " ++ reason.message
  | invalidDirective location receiver handler reason =>
    location.text ++ ": invalid apigen:api directive on "
      ++ ticked (receiver ++ "::" ++ handler) ++ ": " ++ reason.message
  | unsupportedSignature location receiver handler reason =>
    location.text ++ ": unsupported handler signature for "
      ++ ticked (receiver ++ "::" ++ handler) ++ ": " ++ reason.message
  | unresolvedRecord location receiver handler record =>
    location.text ++ ": " ++ ticked (receiver ++ "::" ++ handler) ++ " takes "
      ++ ticked record ++ ", which is not a tagged record in this file"

end Switchboard
