/-!
This module contains declarations of records, as they are written down.
-/

namespace Aggregation

/--
An item of an attribute: a key, and the text assigned to it if there is one.
-/
structure Setting where
  key : String
  text : Option String := none
  deriving DecidableEq

abbrev Attribute := List Setting

structure FieldDeclaration where
  name : String
  attributes : List Attribute := []
  deriving DecidableEq

inductive Shape where
  | named (fields : List FieldDeclaration)
  | tuple
  | unit
  | sum
  deriving DecidableEq

inductive Visibility where
  | inherited
  | everywhere
  | package
  deriving DecidableEq

def Visibility.text : Visibility → String
  | .inherited => ""
  | .everywhere => "pub"
  | .package => "pub (crate)"

structure RecordDeclaration where
  name : String
  visibility : Visibility := .inherited
  attributes : List Attribute := []
  shape : Shape
  deriving DecidableEq

/--
The identifier without the mark that makes a keyword a name.
-/
def bareName (identifier : String) : String :=
  match identifier.toList with
  | 'r' :: '#' :: cs => String.ofList cs
  | _ => identifier

end Aggregation
