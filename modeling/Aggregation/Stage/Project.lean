import Aggregation.Expression.Resolve

/-!
This module contains the stage that chooses and computes the fields of documents.
-/

namespace Aggregation

inductive Projection where
  | keep (field : FieldPath)
  | drop (field : FieldPath)
  | computed (field : FieldPath) (source : Operand)

structure Project where
  projections : List Projection := []

namespace Project

inductive Clause where
  | keep (field : FieldPath)
  | drop (field : FieldPath)
  | dropIdentity
  | computed (source : Operand) (field : FieldPath)
  | expression (field : FieldPath) (e : Expression)
  | literal (field : FieldPath) (v : Bson)

/--
The source of a computed field. A bare constant would be taken for a flag.
-/
def source : Operand → Operand
  | .literal v => .expression (.literal v)
  | o => o

def projection : Clause → Projection
  | .keep field => .keep field
  | .drop field => .drop field
  | .dropIdentity => .drop (.name identityField)
  | .computed o field => .computed field (source o)
  | .expression field e => .computed field (source (.expression e))
  | .literal field v => .computed field (source (.expression (.literal v)))

def declare (p : Project) (c : Clause) : Project :=
  { p with projections := p.projections ++ [projection c] }

def ofClauses (clauses : List Clause) : Project :=
  clauses.foldl declare {}

def entry (ctx : Context) : Projection → Except Error (String × Bson)
  | .keep field => return (← field.resolve ctx, .int32 1)
  | .drop field => return (← field.resolve ctx, .int32 0)
  | .computed field source => do
    let name ← field.resolve ctx
    return (name, ← source.resolve ctx)

def body (ctx : Context) (p : Project) : Except Error Document := do
  if p.projections.isEmpty then
    throw (.incompleteStage "$project" .noProjection)
  return .ofEntries (← p.projections.mapM (entry ctx))

end Project

end Aggregation
