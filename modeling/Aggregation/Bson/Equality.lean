import Aggregation.Bson.Document

/-!
This module contains the equality of values. Values of different types differ, numbers compare as
numbers, and the order of the entries of a document does not matter.
-/

namespace Aggregation

namespace Bson

mutual

def same : Bson → Bson → Bool
  | .null, .null => true
  | .bool a, .bool b => a == b
  | .int32 a, .int32 b => a == b
  | .int64 a, .int64 b => a == b
  | .double a, .double b => a.sameNumber b
  | .string a, .string b => a == b
  | .array as, .array bs => sameItems as bs
  | .document as, .document bs => as.length == bs.length && sameEntries as bs
  | .dateTime a, .dateTime b => a == b
  | .objectId a, .objectId b => a == b
  | .decimal128 a, .decimal128 b => a == b
  | .binary s a, .binary t b => s == t && a == b
  | .regex p o, .regex q r => p == q && o == r
  | .timestamp a i, .timestamp b j => a == b && i == j
  | .code a, .code b => a == b
  | .codeWithScope a as, .codeWithScope b bs =>
    a == b && as.length == bs.length && sameEntries as bs
  | .symbol a, .symbol b => a == b
  | .undefined, .undefined => true
  | .minKey, .minKey => true
  | .maxKey, .maxKey => true
  | _, _ => false
termination_by structural a => a

def sameItems : List Bson → List Bson → Bool
  | [], [] => true
  | a :: as, b :: bs => a.same b && sameItems as bs
  | _, _ => false
termination_by structural as => as

def sameEntries : List (String × Bson) → Document → Bool
  | [], _ => true
  | (k, a) :: as, d =>
    (match d.get? k with
      | some b => a.same b
      | none => false) && sameEntries as d
termination_by structural as => as

end

end Bson

end Aggregation
