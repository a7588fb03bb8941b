/-!
This module contains the operators of expressions.
-/

namespace Aggregation

/--
Operators with a list of operands.
-/
inductive ListOperator where
  | add
  | multiply
  | eq
  | ne
  | gt
  | gte
  | lt
  | lte
  | and
  | or
  deriving DecidableEq

def ListOperator.name : ListOperator → String
  | .add => "$add"
  | .multiply => "$multiply"
  | .eq => "$eq"
  | .ne => "$ne"
  | .gt => "$gt"
  | .gte => "$gte"
  | .lt => "$lt"
  | .lte => "$lte"
  | .and => "$and"
  | .or => "$or"

/--
Operators with two operands.
-/
inductive PairOperator where
  | subtract
  | divide
  | modulo
  | compare
  deriving DecidableEq

def PairOperator.name : PairOperator → String
  | .subtract => "$subtract"
  | .divide => "$divide"
  | .modulo => "$mod"
  | .compare => "$cmp"

/--
Operators that combine one operand over a group of documents.
-/
inductive Accumulator where
  | sum
  | avg
  | min
  | max
  | first
  | last
  | push
  | addToSet
  | stdDevPop
  | stdDevSamp
  deriving DecidableEq

def Accumulator.name : Accumulator → String
  | .sum => "$sum"
  | .avg => "$avg"
  | .min => "$min"
  | .max => "$max"
  | .first => "$first"
  | .last => "$last"
  | .push => "$push"
  | .addToSet => "$addToSet"
  | .stdDevPop => "$stdDevPop"
  | .stdDevSamp => "$stdDevSamp"

end Aggregation
