import Aggregation.Double.Basic

/-!
This module contains the values of the document store.
-/

namespace Aggregation

inductive Bson where
  | null
  | bool (b : Bool)
  | int32 (n : Int32)
  | int64 (n : Int64)
  | double (x : Double)
  | string (s : String)
  | array (items : List Bson)
  | document (entries : List (String × Bson))
  | dateTime (millis : Int64)
  | objectId (bytes : List UInt8)
  | decimal128 (text : String)
  | binary (subtype : UInt8) (bytes : List UInt8)
  | regex (pattern options : String)
  | timestamp (time increment : UInt32)
  | code (text : String)
  | codeWithScope (text : String) (scope : List (String × Bson))
  | symbol (s : String)
  | undefined
  | minKey
  | maxKey
  deriving Inhabited

/--
The keys and values of a document, in their order.
-/
abbrev Document := List (String × Bson)

end Aggregation
