import Aggregation.Criteria.Expression
import Aggregation.Proofs.Except

/-!
This module contains induction over criteria, their leaves, and the equations of the two forms for
lists of criteria.
-/

namespace Aggregation

namespace Criteria

/--
Induction in which the hypothesis about a list of parts is one about each of its members.
-/
@[elab_as_elim, induction_eliminator]
theorem induction {motive : Criteria → Prop}
    (all : ∀ parts, (∀ c ∈ parts, motive c) → motive (.all parts))
    (any : ∀ parts, (∀ c ∈ parts, motive c) → motive (.any parts))
    (negation : ∀ part, motive part → motive (.negation part))
    (presence : ∀ f expected, motive (.presence f expected))
    (field : ∀ f operator value, motive (.field f operator value))
    (c : Criteria) : motive c := by
  apply @Criteria.rec motive (fun cs => ∀ c ∈ cs, motive c)
  . exact all
  . exact any
  . exact negation
  . exact presence
  . exact field
  . simp
  . simp_all

inductive Leaf where
  | presence (field : FieldPath) (expected : Bool)
  | field (field : FieldPath) (operator : FieldOperator) (value : Bson)

namespace Leaf

def toCriteria : Leaf → Criteria
  | .presence f expected => .presence f expected
  | .field f operator value => .field f operator value

def path : Leaf → FieldPath
  | .presence f _ => f
  | .field f _ _ => f

end Leaf

mutual

def leaves : Criteria → List Leaf
  | .all parts => leavesOfAll parts
  | .any parts => leavesOfAll parts
  | .negation part => part.leaves
  | .presence f expected => [.presence f expected]
  | .field f operator value => [.field f operator value]

def leavesOfAll : List Criteria → List Leaf
  | [] => []
  | c :: cs => c.leaves ++ leavesOfAll cs

end

@[simp]
theorem leaves_toCriteria (l : Leaf) : l.toCriteria.leaves = [l] := by
  cases l <;> rw [Leaf.toCriteria, leaves]

@[simp]
theorem mem_leavesOfAll {l : Leaf} {cs : List Criteria}
    : l ∈ leavesOfAll cs ↔ ∃ c ∈ cs, l ∈ c.leaves := by
  induction cs with
  | nil => simp [leavesOfAll]
  | cons c cs ih => simp [leavesOfAll, ih]

theorem queries_eq_mapM (ctx : Context) (cs : List Criteria)
    : queries ctx cs = List.map .document <$> cs.mapM (query ctx) := by
  induction cs with
  | nil => simp [queries]
  | cons c cs ih => simp [queries, ih]

theorem expressions_eq_mapM (ctx : Context) (cs : List Criteria)
    : expressions ctx cs = List.map .document <$> cs.mapM (expression ctx) := by
  induction cs with
  | nil => simp [expressions]
  | cons c cs ih => simp [expressions, ih]

end Criteria

end Aggregation
