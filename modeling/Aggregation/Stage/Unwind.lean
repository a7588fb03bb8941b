import Aggregation.Bson.Document
import Aggregation.FieldPath

/-!
This module contains the stage that turns the items of an array into documents of their own.
-/

namespace Aggregation

structure Unwind where
  path : Option FieldPath := none
  arrayIndex : Option FieldPath := none
  preserveEmpty : Bool := false

namespace Unwind

inductive Clause where
  | path (field : FieldPath)
  | arrayIndex (field : FieldPath)
  | preserveEmpty (preserve : Bool)

def declare (u : Unwind) : Clause → Unwind
  | .path field => { u with path := some field }
  | .arrayIndex field => { u with arrayIndex := some field }
  | .preserveEmpty preserve => { u with preserveEmpty := preserve }

def ofClauses (clauses : List Clause) : Unwind :=
  clauses.foldl declare {}

/--
There is nothing to unwind without a path.
-/
def body? (ctx : Context) (u : Unwind) : Except Error (Option Document) := do
  match u.path with
  | none => return none
  | some path =>
    let path ← path.reference ctx
    let index ← u.arrayIndex.mapM (FieldPath.resolve ctx)
    return some (("path", .string path) ::
      (index.toList.map fun i => ("includeArrayIndex", .string i)) ++
      [("preserveNullAndEmptyArrays", .bool u.preserveEmpty)])

end Unwind

end Aggregation
