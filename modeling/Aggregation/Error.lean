import Aggregation.Criteria.Operator
import Aggregation.Text.Quoted

/-!
This module contains the reasons for which something cannot be resolved or run, and their wording.
-/

namespace Aggregation

inductive StageFault where
  | noProjection
  | noAssignment
  | reservedAccumulator
  | noSortKey
  | noOutputField
  | noFacet
  | noSearchOperator
  | noClause
  | noField
  deriving DecidableEq

inductive ExpressionFault where
  | noBranch
  deriving DecidableEq

inductive PathFault where
  | empty
  | emptySegment (declared : String)
  | refused (reason : String)
  deriving DecidableEq

inductive CriteriaFault where
  | noPart (combinator : Combinator)
  | notText (operator : FieldOperator)
  | notTextOrArray (operator : FieldOperator)
  deriving DecidableEq

inductive Error where
  | incompleteStage (stage : String) (fault : StageFault)
  | incompleteExpression (operator : String) (fault : ExpressionFault)
  | invalidFieldPath (fault : PathFault)
  | invalidCriteria (fault : CriteriaFault)
  | undecodableRow
  | initialization (reason : String)
  | backend (reason : String)
  deriving DecidableEq

def StageFault.message : StageFault → String
  | .noProjection => "at least one field must be included, excluded or computed"
  | .noAssignment => "at least one field assignment is required"
  | .reservedAccumulator => "an accumulator cannot be named `_id`, which holds the grouping key"
  | .noSortKey => "at least one sort key is required"
  | .noOutputField => "the output field `as` is required"
  | .noFacet => "at least one facet is required"
  | .noSearchOperator => "a search operator is required"
  | .noClause => "a compound operator requires at least one clause"
  | .noField => "at least one field is required"

def ExpressionFault.message : ExpressionFault → String
  | .noBranch => "at least one branch is required"

def PathFault.message : PathFault → String
  | .empty => "empty field path"
  | .emptySegment declared =>
    "property " ++ Text.quoted declared ++ " resolves to an empty segment"
  | .refused reason => reason

def CriteriaFault.message : CriteriaFault → String
  | .noPart combinator => "`" ++ combinator.name ++ "` requires at least one nested criteria"
  | .notText operator => operator.name ++ " requires a string value"
  | .notTextOrArray operator => operator.name ++ " requires a string or array value"

def Error.message : Error → String
  | .incompleteStage stage fault => "Incomplete stage " ++ stage ++ ": " ++ fault.message
  | .incompleteExpression operator fault =>
    "Incomplete expression " ++ operator ++ ": " ++ fault.message
  | .invalidFieldPath fault => "Invalid field path: " ++ fault.message
  | .invalidCriteria fault => "Invalid criteria: " ++ fault.message
  | .undecodableRow => "Serialization error: a row does not have the requested form"
  | .initialization reason => "Initialization error: " ++ reason
  | .backend reason => "Backend error: " ++ reason

end Aggregation
