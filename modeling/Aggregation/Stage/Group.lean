import Aggregation.Expression.Resolve

/-!
This module contains the stage that groups documents by a key.
-/

namespace Aggregation

structure Group where
  key : Option Operand := none
  accumulators : List (String × Expression) := []

namespace Group

inductive Clause where
  | noKey
  | key (o : Operand)
  | keyExpression (e : Expression)
  | accumulate (name : String) (e : Expression)

def declare (g : Group) : Clause → Group
  | .noKey => { g with key := none }
  | .key o => { g with key := some o }
  | .keyExpression e => { g with key := some (.expression e) }
  | .accumulate name e => { g with accumulators := g.accumulators ++ [(name, e)] }

def ofClauses (clauses : List Clause) : Group :=
  clauses.foldl declare {}

def resolveKey (ctx : Context) : Option Operand → Except Error Bson
  | none => return .null
  | some o => o.resolve ctx

/--
The name of the key cannot be taken by an accumulator.
-/
def entry (ctx : Context) (a : String × Expression) : Except Error (String × Bson) := do
  if a.1 = identityField then
    throw (.incompleteStage "$group" .reservedAccumulator)
  return (a.1, ← a.2.resolve ctx)

def body (ctx : Context) (g : Group) : Except Error Document := do
  let key ← resolveKey ctx g.key
  return .ofEntries ((identityField, key) :: (← g.accumulators.mapM (entry ctx)))

end Group

end Aggregation
