import Aggregation.Criteria.Expression
import Aggregation.Expression.Operator

/-!
This module contains the expressions of the aggregation language and the operands they are built
from.
-/

namespace Aggregation

mutual

inductive Operand where
  | literal (v : Bson)
  | field (path : String)
  | property (p : Property)
  | expression (e : Expression)
  | reference (name : String)
  | instant (t : Instant)

/--
The operands of `list` and the candidates of `ifNull` are a first one and the rest.
-/
inductive Expression where
  | operand (o : Operand)
  | list (operator : ListOperator) (first : Operand) (rest : List Operand)
  | pair (operator : PairOperator) (first second : Operand)
  | not (o : Operand)
  | cond (condition consequence alternative : Operand)
  | ifNull (first : Operand) (rest : List Operand) (replacement : Operand)
  | switch (branches : List (Expression × Operand)) (default : Option Operand)
  | bind (bindings : List (String × Operand)) (body : Option Expression)
  | literal (v : Bson)
  | metadata (keyword : String)
  | criteria (c : Criteria)
  | accumulate (operator : Accumulator) (o : Operand)
  | countAll

end

namespace Operand

def ofPath : FieldPath → Operand
  | .name path => .field path
  | .property p => .property p

def ofDate (d : Date) : Operand :=
  .instant d.midnight

def ofCriteria (c : Criteria) : Operand :=
  .expression (.criteria c)

end Operand

namespace Expression

def ofOperand : Operand → Expression
  | .expression e => e
  | o => .operand o

def reference (name : String) : Expression :=
  ofOperand (.reference name)

end Expression

end Aggregation
