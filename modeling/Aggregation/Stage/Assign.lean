import Aggregation.Expression.Resolve

/-!
This module contains the stage that sets fields of documents. It has two names.
-/

namespace Aggregation

inductive AssignForm where
  | addFields
  | set
  deriving DecidableEq

def AssignForm.name : AssignForm → String
  | .addFields => "$addFields"
  | .set => "$set"

structure Assign where
  form : AssignForm
  assignments : List (FieldPath × Operand) := []

namespace Assign

inductive Clause where
  | set (field : FieldPath) (o : Operand)
  | value (field : FieldPath) (v : Bson)
  | copy (field : FieldPath) (source : FieldPath)
  | expression (field : FieldPath) (e : Expression)

def assignment : Clause → FieldPath × Operand
  | .set field o => (field, o)
  | .value field v => (field, .literal v)
  | .copy field source => (field, .ofPath source)
  | .expression field e => (field, .expression e)

def declare (a : Assign) (c : Clause) : Assign :=
  { a with assignments := a.assignments ++ [assignment c] }

def ofClauses (form : AssignForm) (clauses : List Clause) : Assign :=
  clauses.foldl declare { form }

def entry (ctx : Context) (a : FieldPath × Operand) : Except Error (String × Bson) := do
  let name ← a.1.resolve ctx
  return (name, ← a.2.resolve ctx)

def body (ctx : Context) (a : Assign) : Except Error Document := do
  if a.assignments.isEmpty then
    throw (.incompleteStage a.form.name .noAssignment)
  return .ofEntries (← a.assignments.mapM (entry ctx))

end Assign

end Aggregation
