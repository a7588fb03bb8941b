import Aggregation.Search.Basic

/-!
This module contains the resolution of search operators to documents.
-/

namespace Aggregation

namespace Search

/--
The entry for a list of clauses, which is left out if there are none.
-/
def clauses (key : String) (operators : List Bson) : List (String × Bson) :=
  if operators.isEmpty then [] else [(key, .array operators)]

mutual

def Operator.resolve (ctx : Context) : Operator → Except Error Document
  | .text query path => do
    return .single "text"
      (.document [("query", .string query), ("path", .string (← path.resolve ctx))])
  | .phrase query path => do
    return .single "phrase"
      (.document [("query", .string query), ("path", .string (← path.resolve ctx))])
  | .presence path => do
    return .single "exists" (.single "path" (.string (← path.resolve ctx)))
  | .equals path value => do
    return .single "equals" (.document [("path", .string (← path.resolve ctx)), ("value", value)])
  | .range r => do
    let path ← r.path.resolve ctx
    let bounds := r.bounds.map fun (b, v) => (b.name, v)
    return .single "range" (.document (("path", .string path) :: bounds))
  | .compound ⟨must, mustNot, should, filter, minimum⟩ => do
    if must.isEmpty && mustNot.isEmpty && should.isEmpty && filter.isEmpty then
      throw (.incompleteStage "$search" .noClause)
    let must ← Operator.resolveAll ctx must
    let mustNot ← Operator.resolveAll ctx mustNot
    let should ← Operator.resolveAll ctx should
    let filter ← Operator.resolveAll ctx filter
    let minimum := minimum.toList.map fun n => ("minimumShouldMatch", Bson.int32 n)
    return .single "compound" (.document
      (clauses "must" must ++ clauses "mustNot" mustNot ++ clauses "should" should ++
        clauses "filter" filter ++ minimum))

def Operator.resolveAll (ctx : Context) : List Operator → Except Error (List Bson)
  | [] => return []
  | o :: os => do
    let d ← o.resolve ctx
    return .document d :: (← Operator.resolveAll ctx os)

end

end Search

end Aggregation
