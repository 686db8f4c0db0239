import Switchboard.Api.Basic

/-!
# What a source file declares for an API

Of a source file two kinds of declarations count: methods whose documentation
holds a directive, and structures with annotated fields. Neither the directive
nor the annotations have been read yet.
-/

namespace Switchboard

/-- **A method with a directive.** -/
structure HandlerDeclaration where
  /-- The type it belongs to. -/
  receiver : String
  /-- Its name. -/
  name : String
  /-- Its documentation. -/
  doc : String
  /-- How it takes the context of a request, if it does. -/
  context : Option ContextMode
  /-- The name of its argument. -/
  argument : String
  /-- The name of the record it takes. -/
  record : String
  /-- Whether it takes the record as a reference. -/
  byRef : Bool
  /-- The name of its result. -/
  result : String
  /-- Where its name stands. -/
  location : Location
deriving DecidableEq, Repr

/-- **An annotated field.** -/
structure FieldDeclaration where
  /-- Its name. -/
  name : String
  /-- Its kind. -/
  kind : Kind
  /-- Its annotations. -/
  tag : String
  /-- Where its name stands. -/
  location : Location
deriving DecidableEq, Repr

/-- **A structure with annotated fields.** -/
structure RecordDeclaration where
  /-- Its name. -/
  name : String
  /-- Its annotated fields. -/
  fields : List FieldDeclaration
  /-- Whether it has fields beside these. -/
  hasOtherFields : Bool
  /-- Where its name stands. -/
  location : Location
deriving DecidableEq, Repr

/-- **A declaration.** -/
inductive Declaration where
  /-- A method with a directive. -/
  | handler (decl : HandlerDeclaration)
  /-- A structure with annotated fields. -/
  | record (decl : RecordDeclaration)
deriving DecidableEq, Repr

end Switchboard
