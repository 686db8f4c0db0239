import Switchboard.Api.Link
import Switchboard.Source.Declarations

/-!
# An API from its declarations

The directives and constraints of the declarations are read in the order the
declarations stand in, then the handlers are linked.
-/

namespace Switchboard

/-- The handler of a declaration. -/
def HandlerDeclaration.handler (d : HandlerDeclaration) :
    Except GenerationError Handler := do
  let directive ← (Doc.directive d.doc).mapError
    (.invalidDirective d.location d.receiver d.name)
  return {
    receiver := d.receiver
    name := d.name
    argument := d.argument
    record := d.record
    byRef := d.byRef
    context := d.context
    result := d.result
    directive := directive
    link := none
    location := d.location }

/-- The field of a declaration in a record. -/
def FieldDeclaration.field (record : String) (d : FieldDeclaration) :
    Except GenerationError Field := do
  let constraints ← (Doc.constraints d.tag).mapError
    (.invalidTag d.location record d.name)
  return ⟨d.name, d.kind, d.tag, constraints⟩

/-- The record of a declaration. -/
def RecordDeclaration.record (d : RecordDeclaration) :
    Except GenerationError Record := do
  let fields ← d.fields.mapM (FieldDeclaration.field d.name)
  return ⟨d.name, fields, d.hasOtherFields, d.location⟩

/-- What a declaration adds to the handlers and the records of an API. -/
def Declaration.parts : Declaration → Except GenerationError (List Handler × List Record)
  | .handler d => return ([← d.handler], [])
  | .record d => return ([], [← d.record])

/-- **An API of declarations**, linked. -/
def Api.ofDeclarations (moduleName : String) (decls : List Declaration) :
    Except GenerationError Api := do
  let parts ← decls.mapM Declaration.parts
  let api : Api := ⟨moduleName, parts.flatMap Prod.fst, parts.flatMap Prod.snd⟩
  match api.link with
  | (linked, none) => return linked
  | (_, some refusal) => throw refusal

/-- **The API that a source file describes.** -/
def Api.ofSource (moduleName source file : String) : Except GenerationError Api := do
  Api.ofDeclarations moduleName (← Source.declarations source file)

end Switchboard
