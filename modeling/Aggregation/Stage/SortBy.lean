import Aggregation.Bson.Document
import Aggregation.FieldPath

/-!
This module contains the stage that sorts documents.
-/

namespace Aggregation

inductive SortOrder where
  | ascending
  | descending
  | textScore
  | searchScore
  deriving DecidableEq

def SortOrder.toBson : SortOrder → Bson
  | .ascending => .int32 1
  | .descending => .int32 (-1)
  | .textScore => .single "$meta" (.string "textScore")
  | .searchScore => .single "$meta" (.string "searchScore")

structure SortBy where
  keys : List (FieldPath × SortOrder) := []

namespace SortBy

def declare (s : SortBy) (key : FieldPath × SortOrder) : SortBy :=
  { s with keys := s.keys ++ [key] }

def ofKeys (keys : List (FieldPath × SortOrder)) : SortBy :=
  keys.foldl declare {}

def entry (ctx : Context) (key : FieldPath × SortOrder) : Except Error (String × Bson) := do
  return (← key.1.resolve ctx, key.2.toBson)

def body (ctx : Context) (s : SortBy) : Except Error Document := do
  if s.keys.isEmpty then
    throw (.incompleteStage "$sort" .noSortKey)
  return .ofEntries (← s.keys.mapM (entry ctx))

end SortBy

end Aggregation
