import Switchboard.Api.Basic
import Switchboard.Source.Lexer
import Switchboard.Source.Parser

/-!
# Names and literals in emitted code

A name that is a keyword needs the mark of a raw one; the method that answers
for a handler is named after it, without that mark. Of a kind, three words
occur: its variant, the accessor that takes a value of it, and whether there is
a value to fall back on.
-/

namespace Switchboard.Dispatch

open Source (Token)

/-- A text without any marks of raw names before it. -/
def dropRawMarks : List Char → List Char
  | 'r' :: '#' :: rest => dropRawMarks rest
  | cs => cs

/-- **The method that answers for a handler.** -/
def methodName (handler : String) : String :=
  "handle_" ++ String.ofList (dropRawMarks handler.toList)

/-- Whether a text is a name by itself. -/
def isPlainName (text : String) : Bool :=
  match Source.lex text.toList with
  | .ok [.word _ name] => Source.Parser.isName name.text
  | _ => false

/-- **A field as a structure literal names it.** -/
def fieldName (name : String) : String :=
  if isPlainName name then name else "r#" ++ name

/-- The variant of a kind. -/
def variantName : Kind → String
  | .string => "Kind::String"
  | .int => "Kind::Int"
  | .uint64 => "Kind::Uint64"

/-- The accessor that takes a value of a kind. -/
def accessorName : Kind → String
  | .string => "take_string"
  | .int => "take_int"
  | .uint64 => "take_uint64"

/-- A truth value. -/
def flagText (b : Bool) : String := if b then "true" else "false"

end Switchboard.Dispatch
