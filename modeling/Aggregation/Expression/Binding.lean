import Aggregation.Expression.Basic

/-!
This module contains expressions with local variables, declared clause by clause.
-/

namespace Aggregation

structure Binding where
  bindings : List (String × Operand) := []
  body : Option Expression := none

namespace Binding

inductive Clause where
  | bind (name : String) (o : Operand)
  | bindExpression (name : String) (e : Expression)
  | body (e : Expression)

def declare (b : Binding) : Clause → Binding
  | .bind name o => { b with bindings := b.bindings ++ [(name, o)] }
  | .bindExpression name e => { b with bindings := b.bindings ++ [(name, .expression e)] }
  | .body e => { b with body := some e }

def ofClauses (clauses : List Clause) : Binding :=
  clauses.foldl declare {}

def toExpression (b : Binding) : Expression :=
  .bind b.bindings b.body

end Binding

end Aggregation
