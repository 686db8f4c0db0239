import Switchboard.Declaration
import Switchboard.Doc.Tag
import Switchboard.GenerationError
import Switchboard.Source.Grammar.Level
import Switchboard.Source.Lexer

/-!
# The declarations of a source file

Methods count when they stand in a block that implements no trait and their
documentation holds the marker of a directive. Structures count when they have
named fields and one of these is annotated.

The documentation of an item is made of the lines of its documentation
attributes. Its annotations are those lines that are annotations throughout;
lists of serialization options are added as one more annotation.
-/

namespace Switchboard.Source

/-! ## Documentation and annotations -/

/-- The lines of the documentation of an item. -/
def docLines (attributes : List Attribute) : List String :=
  attributes.flatMap fun a =>
    match a with
    | .doc text => Text.lines text
    | _ => []

/-- **The documentation of an item.** -/
def docText (attributes : List Attribute) : String :=
  Text.join "\n" (docLines attributes)

/-- The lists of serialization options of an item. -/
def serdeOptions (attributes : List Attribute) : List String :=
  attributes.filterMap fun a =>
    match a with
    | .serde options => some options
    | _ => none

/-- A text with a backslash before quotes and backslashes. -/
def escapeQuotes (text : String) : String :=
  String.ofList (text.toList.flatMap fun c =>
    if c = '\\' || c = '"' then ['\\', c] else [c])

/-- Lists of serialization options as one annotation. -/
def serdeTag (options : List String) : List String :=
  if options.isEmpty then []
  else ["serde:\"" ++ escapeQuotes (Text.join ", " options) ++ "\""]

/-- A line without the white space around it. -/
def trimmed (line : String) : String := String.ofList (Text.trim line.toList)

/-- **The annotations of an item.** -/
def tagText (attributes : List Attribute) : String :=
  let lines := (docLines attributes).filter Doc.isTagLine
  Text.join " "
    (lines.map trimmed ++ serdeTag (serdeOptions attributes))

/-- Whether annotations make a field one that a form fills. -/
def isAnnotated (tag : String) : Bool :=
  (match Doc.lookup tag "apivalidator" with
    | some value => !Text.isBlankText value
    | none => false)
    || Doc.hasSerializationTag tag

/-! ## Types -/

/-- The name of a type that is no more than a name, perhaps with a path before
it. -/
def Ty.name? : Ty → Option Word
  | .named _ false name => some name
  | _ => none

/-- A type without the reference around it, and whether there was one. -/
def Ty.stripped : Ty → Ty × Bool
  | .reference _ _ target => (target, true)
  | t => (t, false)

/-- A type without references and boxes around it. -/
def Ty.peeled : Ty → Ty
  | .reference _ _ target => target.peeled
  | .applied text qualified name (some argument) =>
    if name.text = "Box" then argument.peeled
    else .applied text qualified name (some argument)
  | t => t

/-- The type of a value that a result holds. -/
def Ty.success? : Ty → Option Ty
  | .applied _ _ name argument => if name.text = "Result" then argument else none
  | _ => none

/-- The kind of a field of a type. -/
def Ty.kind? (t : Ty) : Option Kind :=
  match t.name?.map Word.text with
  | some "String" => some .string
  | some "i64" => some .int
  | some "u64" => some .uint64
  | _ => none

/-- The name of a type, or else its text. -/
def Ty.label (t : Ty) : String := (t.name?.map Word.text).getD t.text

/-- A place in a named file. -/
def Pos.inFile (file : String) (p : Pos) : Location := ⟨file, p.line, p.column⟩

/-- A name without the mark of a raw one. -/
def plainName (name : Word) : String := String.ofList (unmarked name.text.toList)

/-! ## Records -/

/-- The declaration of an annotated field. -/
def fieldDeclaration (file record : String) (f : StructField) (tag : String) :
    Except GenerationError FieldDeclaration :=
  let location := f.pos.inFile file
  let name := plainName f.name
  match f.type.kind? with
  | some kind => .ok ⟨name, kind, tag, location⟩
  | none => .error (.unsupportedKind location record name f.type.text)

/-- **The declaration of a structure**, if it has annotated fields. -/
def recordDeclaration? (file : String) (s : Struct) :
    Except GenerationError (Option RecordDeclaration) := do
  let fields := (s.fields.getD []).map fun f => (f, tagText f.attributes)
  let annotated := fields.filter fun f => isAnnotated f.2
  let declared ← annotated.mapM fun f => fieldDeclaration file s.name.text f.1 f.2
  if declared.isEmpty then return none
  return some ⟨s.name.text, declared, annotated.length < fields.length,
    s.pos.inFile file⟩

/-! ## Handlers -/

/-- How a parameter takes the context of a request, if it does. -/
def contextMode? (p : Parameter) : Option ContextMode :=
  let (t, byRef) := p.type.stripped
  if t.name?.map Word.text = some "Context" then some (if byRef then .byRef else .byValue)
  else none

/-- The parameters of a handler: the context, if it is taken, and the record. -/
def splitParameters : List Parameter →
    Except SignatureFault (Option ContextMode × Parameter)
  | [argument] => .ok (none, argument)
  | [context, argument] =>
    match contextMode? context with
    | some mode => .ok (some mode, argument)
    | none => .error .context
  | _ => .error .arity

/-- A value that has to be there, else what is wrong. -/
def orFault {α : Type} (fault : SignatureFault) : Option α → Except SignatureFault α
  | some a => .ok a
  | none => .error fault

/-- **The declaration of a handler**, or what is wrong with its signature. Of
several faults the first in the order of the signature counts. -/
def handlerDeclaration (file receiver : String) (m : Method) :
    Except SignatureFault HandlerDeclaration := do
  if m.isAsync then throw .asynchronous
  if m.isGeneric then throw .generic
  if m.receiver ≠ some ⟨true, false⟩ then throw .receiver
  let (context, argument) ← splitParameters m.parameters
  let name ← orFault .pattern argument.name
  let (type, byRef) := argument.type.stripped
  let record ← orFault .namelessRecord type.name?
  let result ← orFault .result (m.output.bind Ty.success?)
  return ⟨receiver, m.name.text, docText m.attributes, context, name.text, record.text, byRef,
    result.peeled.label, m.pos.inFile file⟩

/-- The declaration of a handler in a block of methods. -/
def blockHandler (file : String) (b : ImplBlock) (m : Method) :
    Except GenerationError HandlerDeclaration :=
  let receiver := b.self.label
  let declared : Except SignatureFault HandlerDeclaration := do
    if b.isGeneric then throw .genericBlock
    if b.self.name?.isNone then throw .namelessReceiver
    handlerDeclaration file receiver m
  declared.mapError
    (.unsupportedSignature (m.pos.inFile file) receiver m.name.text)

/-- **The handlers of a block of methods.** -/
def handlerDeclarations (file : String) (b : ImplBlock) :
    Except GenerationError (List HandlerDeclaration) :=
  if b.isTrait then .ok []
  else
    (b.methods.filter fun m => Doc.hasMarker (docText m.attributes)).mapM
      (blockHandler file b)

/-! ## Files -/

/-- The declarations of an item. -/
def itemDeclarations (file : String) :
    Item → Except GenerationError (List Declaration)
  | .impl b => return (← handlerDeclarations file b).map .handler
  | .struct s => return ((← recordDeclaration? file s).map .record).toList
  | .other => return []

/-- **The declarations of a source file**, in order. -/
def declarations (source file : String) :
    Except GenerationError (List Declaration) := do
  let tokens ← (fileTokens source).mapError fun p =>
    .badTokens (p.inFile file)
  let items ← (itemsOf tokens).mapError fun p => .badGrammar (p.inFile file)
  return (← items.mapM (itemDeclarations file)).flatten

end Switchboard.Source
