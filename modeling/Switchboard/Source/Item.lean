import Switchboard.Source.Token

/-!
# What a source declares

Of a source file only its items matter, and of those only the blocks that give
a type its methods and the structures. A method is kept with its attributes and
its signature; bodies are dropped. All other items are alike.

A type is kept as far as it can be recognized: a plain path by its last name, a
path whose last segment has arguments by the first type among them, and a
reference by its target. Every type also has its text.
-/

namespace Switchboard.Source

/-- **An attribute**, by the name it begins with. -/
inductive Attribute where
  /-- Documentation that assigns a text. -/
  | doc (text : String)
  /-- A list of serialization options, as they are shown. -/
  | serde (options : String)
  /-- Any other attribute. -/
  | other
deriving DecidableEq, Repr

/-- **A type.** -/
inductive Ty where
  /-- A path whose last segment has no arguments. It is qualified when it goes
  through a trait. -/
  | named (text : String) (qualified : Bool) (name : Word)
  /-- A path whose last segment has arguments, with the first type of them. -/
  | applied (text : String) (qualified : Bool) (name : Word)
      (argument : Option Ty)
  /-- A reference. -/
  | reference (text : String) (mutable : Bool) (target : Ty)
  /-- Any other type. -/
  | other (text : String)
deriving Repr

/-- The text of a type. -/
def Ty.text : Ty → String
  | named text _ _ => text
  | applied text _ _ _ => text
  | reference text _ _ => text
  | other text => text

/-- **A parameter of a method**, by the name it is bound to if its pattern is
no more than a name. -/
structure Parameter where
  /-- The name. -/
  name : Option Word
  /-- The type. -/
  type : Ty
deriving Repr

/-- The receiver of a method. -/
structure Receiver where
  /-- Whether it is taken as a reference. -/
  byRef : Bool
  /-- Whether it is mutable. -/
  mutable : Bool
deriving DecidableEq, Repr

/-- **A method.** -/
structure Method where
  /-- Its name. -/
  name : Word
  /-- Where its name stands. -/
  pos : Pos
  /-- Its attributes, those inside its body last. -/
  attributes : List Attribute
  /-- Whether it is asynchronous. -/
  isAsync : Bool
  /-- Whether it has generic parameters. -/
  isGeneric : Bool
  /-- Its receiver, if it has one. -/
  receiver : Option Receiver
  /-- Its other parameters. -/
  parameters : List Parameter
  /-- The type it returns, if one is given. -/
  output : Option Ty
deriving Repr

/-- **A block that gives a type methods.** -/
structure ImplBlock where
  /-- Whether it has generic parameters. -/
  isGeneric : Bool
  /-- Whether it implements a trait. -/
  isTrait : Bool
  /-- The type. -/
  self : Ty
  /-- The methods. -/
  methods : List Method
deriving Repr

/-- **A named field of a structure.** -/
structure StructField where
  /-- Its name as written. -/
  name : Word
  /-- Where its name stands. -/
  pos : Pos
  /-- Its attributes. -/
  attributes : List Attribute
  /-- Its type. -/
  type : Ty
deriving Repr

/-- **A structure**; without named fields there are none to list. -/
structure Struct where
  /-- Its name. -/
  name : Word
  /-- Where its name stands. -/
  pos : Pos
  /-- Its fields, if they are named. -/
  fields : Option (List StructField)
deriving Repr

/-- **An item of a source file.** -/
inductive Item where
  /-- A block of methods. -/
  | impl (block : ImplBlock)
  /-- A structure. -/
  | struct (decl : Struct)
  /-- Any other item. -/
  | other
deriving Repr

end Switchboard.Source
