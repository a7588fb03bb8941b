import Aggregation.Expression.Resolve

/-!
This module contains the stage that joins the documents of another collection.
-/

namespace Aggregation

/--
The inner pipeline is a list of stages, and `σ` is their type.
-/
structure Lookup (σ : Type) where
  source : Option String := none
  localField : Option FieldPath := none
  foreignField : Option FieldPath := none
  bindings : List (String × Operand) := []
  pipeline : Option (List σ) := none
  output : Option FieldPath := none

namespace Lookup

inductive Clause (σ : Type) where
  | source (collection : String)
  | localField (field : FieldPath)
  | foreignField (field : FieldPath)
  | bind (name : String) (o : Operand)
  | bindExpression (name : String) (e : Expression)
  | pipeline (stages : List σ)
  | output (field : FieldPath)

def declare (l : Lookup σ) : Clause σ → Lookup σ
  | .source collection => { l with source := some collection }
  | .localField field => { l with localField := some field }
  | .foreignField field => { l with foreignField := some field }
  | .bind name o => { l with bindings := l.bindings ++ [(name, o)] }
  | .bindExpression name e => { l with bindings := l.bindings ++ [(name, .expression e)] }
  | .pipeline stages => { l with pipeline := some stages }
  | .output field => { l with output := some field }

def ofClauses (clauses : List (Clause σ)) : Lookup σ :=
  clauses.foldl declare {}

/--
The entry for the variables, which is left out if there are none.
-/
def letEntry (bindings : List (String × Bson)) : List (String × Bson) :=
  if bindings.isEmpty then [] else [("let", .ofEntries bindings)]

/--
The entries of the stage, where `inner` is the entry for the inner pipeline. The output field comes
last, but it has to be there before anything else is looked at.
-/
def body (ctx : Context) (inner : Except Error (List (String × Bson))) (l : Lookup σ) :
    Except Error Document := do
  match l.output with
  | none => throw (.incompleteStage "$lookup" .noOutputField)
  | some output =>
    let localField ← l.localField.mapM (FieldPath.resolve ctx)
    let foreignField ← l.foreignField.mapM (FieldPath.resolve ctx)
    let bindings ← Operand.resolveBindings ctx l.bindings
    let pipeline ← inner
    let output ← output.resolve ctx
    return (l.source.toList.map fun s => ("from", .string s)) ++
      (localField.toList.map fun s => ("localField", .string s)) ++
      (foreignField.toList.map fun s => ("foreignField", .string s)) ++
      letEntry bindings ++ pipeline ++ [("as", .string output)]

end Lookup

end Aggregation
