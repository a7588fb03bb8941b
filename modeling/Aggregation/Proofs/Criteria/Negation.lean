import Aggregation.Criteria.Expression
import Aggregation.Proofs.FieldPath

/-!
This module contains the negated tests of criteria in their form for expressions. A negated test of
containment is made of the reference to its field, which is a name with the same reference again.
-/

namespace Aggregation

namespace Criteria

def negated (d : Document) : Document :=
  .single "$not" (.array [.document d])

theorem expression_contains (ctx : Context) (f : FieldPath) (value : Bson)
    : (field f .contains value).expression ctx = contains ctx f value := by
  rw [expression, contains]
  rfl

section

variable {f : FieldPath} {ctx : Context} {reference : String}

theorem contains_name (h : f.reference ctx = .ok reference) (ctx' : Context) (value : Bson)
    : contains ctx' (.name reference) value = containment reference value := by
  rw [contains, FieldPath.reference_name_of_reference h ctx']
  rfl

theorem test_notContains (h : f.reference ctx = .ok reference) (ctx' : Context) (value : Bson)
    : test ctx' reference .notContains value = negated <$> containment reference value := by
  rw [test, contains_name h, map_eq_pure_bind]
  rfl

/-- A test of what is a reference already does not depend on the context. -/
theorem test_of_reference (h : f.reference ctx = .ok reference) (operator : FieldOperator)
    (value : Bson) (ctx' ctx'' : Context)
    : test ctx' reference operator value = test ctx'' reference operator value := by
  cases operator
  case notContains => rw [test_notContains h, test_notContains h]
  all_goals rfl

end

theorem expression_notContains (ctx : Context) (f : FieldPath) (value : Bson)
    : (field f .notContains value).expression ctx =
        negated <$> (field f .contains value).expression ctx := by
  rw [expression, expression_contains, contains]
  cases h : f.reference ctx with
  | error e => rfl
  | ok reference => exact test_notContains h ctx value

theorem expression_noneOf (ctx : Context) (f : FieldPath) (value : Bson)
    : (field f .noneOf value).expression ctx =
        negated <$> (field f .anyOf value).expression ctx := by
  rw [expression, expression, map_bind]
  rfl

theorem expression_of_reference (f : FieldPath) (operator : FieldOperator) (value : Bson)
    (ctx ctx' : Context)
    : (do (field (.name (← f.reference ctx)) operator value).expression ctx') =
        (field f operator value).expression ctx := by
  cases h : f.reference ctx with
  | error e =>
    rw [expression, h]
    rfl
  | ok reference =>
    change (field (.name reference) operator value).expression ctx' = _
    rw [expression, expression, h, FieldPath.reference_name_of_reference h]
    exact test_of_reference h operator value ctx' ctx

/--
A negated test is the negation of a test. This can be the test of what is the reference already, and
then it does not matter how the context resolves properties.
-/
theorem expression_negative_eq_negated (f : FieldPath) (value : Bson) (ctx ctx' : Context)
    : (field f .notContains value).expression ctx =
          negated <$> (field f .contains value).expression ctx ∧
        (field f .noneOf value).expression ctx =
          negated <$> (field f .anyOf value).expression ctx ∧
        (do (FieldPath.name (← f.reference ctx)).reference ctx') = f.reference ctx ∧
        (field f .notContains value).expression ctx = (do
          let reference ← f.reference ctx
          negated <$> (field (.name reference) .contains value).expression ctx') := by
  refine ⟨?_, ?_, ?_, ?_⟩
  . apply expression_notContains
  . apply expression_noneOf
  . apply FieldPath.reference_reference
  . rw [expression_notContains, ← expression_of_reference f .contains value ctx ctx', map_bind]

end Criteria

end Aggregation
