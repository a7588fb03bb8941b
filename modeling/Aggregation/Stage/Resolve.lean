import Aggregation.Stage.Basic

/-!
This module contains the resolution of stages and of the pipelines inside them.
-/

namespace Aggregation

namespace Stage

/--
The argument of a stage that removes fields. The fields are resolved before they are counted.
-/
def unsetBody (ctx : Context) (fields : List FieldPath) : Except Error Bson := do
  match ← fields.mapM (FieldPath.resolve ctx) with
  | [] => throw (.incompleteStage "$unset" .noField)
  | [path] => return .string path
  | paths => return .array (paths.map .string)

mutual

/--
The document of a stage, or `none` if the stage has nothing to do.
-/
def resolve (ctx : Context) : Stage → Except Error (Option Document)
  | .project p => do return some (.single "$project" (.document (← p.body ctx)))
  | .assign a => do return some (.single a.form.name (.document (← a.body ctx)))
  | .group g => do return some (.single "$group" (.document (← g.body ctx)))
  | .sort s => do return some (.single "$sort" (.document (← s.body ctx)))
  | .lookup l@⟨_, _, _, _, pipeline, _⟩ => do
    return some (.single "$lookup" (.document (← l.body ctx (resolveInner ctx pipeline))))
  | .unwind u => do
    return (← u.body? ctx).map fun body =>
      .single "$unwind" (.document body)
  | .unionWith u@⟨_, pipeline⟩ => do
    return (← u.body? (resolveInner ctx pipeline)).map fun body =>
      .single "$unionWith" (.document body)
  | .facet ⟨facets⟩ => do
    if facets.isEmpty then
      throw (.incompleteStage "$facet" .noFacet)
    return some (.single "$facet" (.ofEntries (← resolveFacets ctx facets)))
  | .search s => do return some (.single s.form.name (.document (← s.body ctx)))
  | .count field => return some (.single "$count" (.string field))
  | .filter c => do return some (.single "$match" (.document (← c.query ctx)))
  | .filterExpression e => do
    return some (.single "$match" (.single "$expr" (← e.resolve ctx)))
  | .limit n => return some (.single "$limit" (.int64 n))
  | .skip n => return some (.single "$skip" (.int64 n))
  | .sample n => return some (.single "$sample" (.single "size" (.int64 n)))
  | .unset fields => do return some (.single "$unset" (← unsetBody ctx fields))
  | .replaceRoot o => do
    return some (.single "$replaceRoot" (.single "newRoot" (← o.resolve ctx)))
  | .replaceWith o => do return some (.single "$replaceWith" (← o.resolve ctx))
  | .sortByCount o => do return some (.single "$sortByCount" (← o.resolve ctx))
  | .documents ds => return some (.single "$documents" (.array (ds.map .document)))
  | .raw d => return some d
termination_by structural s => s

/--
The documents of the stages that have something to do.
-/
def resolveAll (ctx : Context) : List Stage → Except Error (List Document)
  | [] => return []
  | s :: ss => do
    let d ← s.resolve ctx
    let ds ← resolveAll ctx ss
    return d.toList ++ ds
termination_by structural ss => ss

def resolveInner (ctx : Context) : Option (List Stage) → Except Error (List (String × Bson))
  | none => return []
  | some stages => do
    return [("pipeline", .array ((← resolveAll ctx stages).map .document))]
termination_by structural stages => stages

def resolveFacets (ctx : Context) :
    List (String × List Stage) → Except Error (List (String × Bson))
  | [] => return []
  | (name, stages) :: facets => do
    let ds ← resolveAll ctx stages
    return (name, .array (ds.map .document)) :: (← resolveFacets ctx facets)
termination_by structural facets => facets

end

end Stage

end Aggregation
