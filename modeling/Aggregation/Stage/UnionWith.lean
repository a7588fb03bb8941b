import Aggregation.Bson.Document
import Aggregation.Error

/-!
This module contains the stage that adds the documents of another collection.
-/

namespace Aggregation

/--
The inner pipeline is a list of stages, and `σ` is their type.
-/
structure UnionWith (σ : Type) where
  collection : Option String := none
  pipeline : Option (List σ) := none

namespace UnionWith

inductive Clause (σ : Type) where
  | collection (name : String)
  | pipeline (stages : List σ)

def declare (u : UnionWith σ) : Clause σ → UnionWith σ
  | .collection name => { u with collection := some name }
  | .pipeline stages => { u with pipeline := some stages }

def ofClauses (clauses : List (Clause σ)) : UnionWith σ :=
  clauses.foldl declare {}

/--
Without a collection there is nothing to add, and `inner`, the entry for the inner pipeline, is not
looked at.
-/
def body? (inner : Except Error (List (String × Bson))) (u : UnionWith σ) :
    Except Error (Option Document) := do
  match u.collection with
  | none => return none
  | some collection => return some (("coll", .string collection) :: (← inner))

end UnionWith

end Aggregation
