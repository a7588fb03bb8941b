import Aggregation.Bson.Equality
import Aggregation.FieldPath

/-!
This module contains criteria, which are boolean combinations of tests on fields.
-/

namespace Aggregation

inductive Criteria where
  | all (parts : List Criteria)
  | any (parts : List Criteria)
  | negation (part : Criteria)
  | presence (field : FieldPath) (expected : Bool)
  | field (field : FieldPath) (operator : FieldOperator) (value : Bson)

namespace Criteria

/--
A conjunction grows at its end, anything else becomes the first of two parts.
-/
def and (c d : Criteria) : Criteria :=
  match c with
  | .all parts => .all (parts ++ [d])
  | c => .all [c, d]

/--
A disjunction grows at its end, anything else becomes the first of two parts.
-/
def or (c d : Criteria) : Criteria :=
  match c with
  | .any parts => .any (parts ++ [d])
  | c => .any [c, d]

def not (c : Criteria) : Criteria :=
  .negation c

/--
A step of a chain of criteria.
-/
inductive Step where
  | and (c : Criteria)
  | or (c : Criteria)
  | not

def apply (c : Criteria) : Step → Criteria
  | .and d => c.and d
  | .or d => c.or d
  | .not => c.not

def chain (c : Criteria) (steps : List Step) : Criteria :=
  steps.foldl apply c

mutual

/--
Structural equality, in which values are compared by `Bson.same`.
-/
def same : Criteria → Criteria → Bool
  | .all as, .all bs => sameParts as bs
  | .any as, .any bs => sameParts as bs
  | .negation a, .negation b => a.same b
  | .presence f a, .presence g b => f == g && a == b
  | .field f o a, .field g p b => f == g && o == p && a.same b
  | _, _ => false
termination_by structural a => a

def sameParts : List Criteria → List Criteria → Bool
  | [], [] => true
  | a :: as, b :: bs => a.same b && sameParts as bs
  | _, _ => false
termination_by structural as => as

end

end Criteria

end Aggregation
