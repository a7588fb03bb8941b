import Aggregation.Expression.Basic

/-!
This module contains operators with a list of operands that is not finished yet.
-/

namespace Aggregation

structure ListBuilder where
  operator : ListOperator
  first : Operand
  rest : List Operand := []

namespace ListBuilder

def push (b : ListBuilder) (o : Operand) : ListBuilder :=
  { b with rest := b.rest ++ [o] }

def pushAll (b : ListBuilder) (os : List Operand) : ListBuilder :=
  os.foldl push b

def length (b : ListBuilder) : Nat :=
  b.rest.length + 1

def isEmpty (b : ListBuilder) : Bool :=
  b.length == 0

def toExpression (b : ListBuilder) : Expression :=
  .list b.operator b.first b.rest

end ListBuilder

end Aggregation
