import Aggregation.Expression.Basic

/-!
This module contains choices between branches, declared clause by clause.
-/

namespace Aggregation

structure Switch where
  branches : List (Expression × Operand) := []
  default : Option Operand := none

namespace Switch

inductive Clause where
  | branch (case : Expression) (result : Operand)
  | branchValue (case : Expression) (result : Bson)
  | default (result : Operand)
  | defaultValue (result : Bson)

def declare (s : Switch) : Clause → Switch
  | .branch case result => { s with branches := s.branches ++ [(case, result)] }
  | .branchValue case v => { s with branches := s.branches ++ [(case, .literal v)] }
  | .default result => { s with default := some result }
  | .defaultValue v => { s with default := some (.literal v) }

def ofClauses (clauses : List Clause) : Switch :=
  clauses.foldl declare {}

def toExpression (s : Switch) : Expression :=
  .switch s.branches s.default

end Switch

end Aggregation
