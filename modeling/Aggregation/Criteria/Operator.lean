/-!
This module contains the operators of criteria.
-/

namespace Aggregation

inductive Combinator where
  | and
  | or
  deriving DecidableEq

def Combinator.name : Combinator → String
  | .and => "and"
  | .or => "or"

/--
A test of one field against a value.
-/
inductive FieldOperator where
  | eq
  | ne
  | gt
  | gte
  | lt
  | lte
  | contains
  | notContains
  | startsWith
  | endsWith
  | anyOf
  | noneOf
  deriving DecidableEq

def FieldOperator.name : FieldOperator → String
  | .eq => "Eq"
  | .ne => "Ne"
  | .gt => "Gt"
  | .gte => "Gte"
  | .lt => "Lt"
  | .lte => "Lte"
  | .contains => "Contains"
  | .notContains => "NotContains"
  | .startsWith => "StartsWith"
  | .endsWith => "EndsWith"
  | .anyOf => "AnyOf"
  | .noneOf => "NoneOf"

end Aggregation
