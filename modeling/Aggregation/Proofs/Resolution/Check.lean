import Aggregation.Pipeline

/-!
This module contains what has to go well for a pipeline to be built, check by check, in the order in
which the checks are made. The checks do not depend on a context, but their outcomes do.
-/

namespace Aggregation

def FieldPath.fault? (ctx : Context) : FieldPath → Option Error
  | .name path => if path = "" then some (.invalidFieldPath .empty) else none
  | .property p =>
    match ctx.resolveProperty p with
    | .error e => some e
    | .ok _ => none

/--
A field that has to have a name, a field that is an operand, a time, or something that is known to be
missing or out of place.
-/
inductive Check where
  | path (f : FieldPath)
  | reference (f : FieldPath)
  | instant (t : Instant)
  | fault (e : Error)

namespace Check

def faultIf (b : Bool) (e : Error) : List Check :=
  if b then [.fault e] else []

def fault? (ctx : Context) : Check → Option Error
  | .path f => f.fault? ctx
  | .reference f => f.fault? ctx
  | .instant _ => none
  | .fault e => some e

def properties : Check → List Property
  | .path (.property p) => [p]
  | .reference (.property p) => [p]
  | _ => []

def instants : Check → List Instant
  | .instant t => [t]
  | _ => []

end Check

namespace FieldOperator

def conditionFault? : FieldOperator → Bson → Option CriteriaFault
  | .contains, .string _ => none
  | .contains, .array _ => none
  | .contains, _ => some (.notTextOrArray .contains)
  | .notContains, .string _ => none
  | .notContains, .array _ => none
  | .notContains, _ => some (.notTextOrArray .notContains)
  | .startsWith, .string _ => none
  | .startsWith, _ => some (.notText .startsWith)
  | .endsWith, .string _ => none
  | .endsWith, _ => some (.notText .endsWith)
  | _, _ => none

-- An expression tests that the field contains the value, and negates the test afterwards.
def testFault? : FieldOperator → Bson → Option CriteriaFault
  | .notContains, value => conditionFault? .contains value
  | operator, value => conditionFault? operator value

end FieldOperator

namespace Criteria

section

-- The form in which criteria are written decides which values an operator accepts.
variable (valueFault? : FieldOperator → Bson → Option CriteriaFault)

mutual

def checks : Criteria → List Check
  | .all parts => Check.faultIf parts.isEmpty (.invalidCriteria (.noPart .and)) ++ checksOfAll parts
  | .any parts => Check.faultIf parts.isEmpty (.invalidCriteria (.noPart .or)) ++ checksOfAll parts
  | .negation part => part.checks
  | .presence f _ => [.path f]
  | .field f operator value =>
    .path f :: (valueFault? operator value).toList.map fun fault => .fault (.invalidCriteria fault)

def checksOfAll : List Criteria → List Check
  | [] => []
  | c :: cs => c.checks ++ checksOfAll cs

end

end

def queryChecks : Criteria → List Check :=
  checks FieldOperator.conditionFault?

def expressionChecks : Criteria → List Check :=
  checks FieldOperator.testFault?

end Criteria

namespace Search

mutual

def Operator.checks : Operator → List Check
  | .text _ path => [.path path]
  | .phrase _ path => [.path path]
  | .presence path => [.path path]
  | .equals path _ => [.path path]
  | .range r => [.path r.path]
  | .compound ⟨must, mustNot, should, filter, _⟩ =>
    Check.faultIf (must.isEmpty && mustNot.isEmpty && should.isEmpty && filter.isEmpty)
        (.incompleteStage "$search" .noClause) ++
      Operator.checksOfAll must ++ Operator.checksOfAll mustNot ++ Operator.checksOfAll should ++
      Operator.checksOfAll filter

def Operator.checksOfAll : List Operator → List Check
  | [] => []
  | o :: os => o.checks ++ Operator.checksOfAll os

end

end Search

mutual

def Operand.checks : Operand → List Check
  | .literal _ => []
  | .field path => [.reference (.name path)]
  | .property p => [.reference (.property p)]
  | .expression e => e.checks
  | .reference _ => []
  | .instant t => [.instant t]

def Expression.checks : Expression → List Check
  | .operand o => o.checks
  | .list _ first rest => first.checks ++ Operand.checksOfAll rest
  | .pair _ first second => first.checks ++ second.checks
  | .not o => o.checks
  | .cond condition consequence alternative =>
    condition.checks ++ consequence.checks ++ alternative.checks
  | .ifNull first rest replacement =>
    first.checks ++ Operand.checksOfAll rest ++ replacement.checks
  | .switch branches default =>
    Check.faultIf branches.isEmpty (.incompleteExpression "$switch" .noBranch) ++
      Expression.checksOfBranches branches ++ Operand.checksOfDefault default
  | .bind bindings body => Operand.checksOfBindings bindings ++ Expression.checksOfBody body
  | .literal _ => []
  | .metadata _ => []
  | .criteria c => c.expressionChecks
  | .accumulate _ o => o.checks
  | .countAll => []

def Operand.checksOfAll : List Operand → List Check
  | [] => []
  | o :: os => o.checks ++ Operand.checksOfAll os

def Expression.checksOfBranches : List (Expression × Operand) → List Check
  | [] => []
  | (e, o) :: branches => e.checks ++ o.checks ++ Expression.checksOfBranches branches

def Operand.checksOfDefault : Option Operand → List Check
  | none => []
  | some o => o.checks

def Operand.checksOfBindings : List (String × Operand) → List Check
  | [] => []
  | (_, o) :: bindings => o.checks ++ Operand.checksOfBindings bindings

def Expression.checksOfBody : Option Expression → List Check
  | none => []
  | some e => e.checks

end

def Projection.checks : Projection → List Check
  | .keep f => [.path f]
  | .drop f => [.path f]
  | .computed f o => .path f :: o.checks

def Project.checks (p : Project) : List Check :=
  Check.faultIf p.projections.isEmpty (.incompleteStage "$project" .noProjection) ++
    p.projections.flatMap Projection.checks

def Assign.checks (a : Assign) : List Check :=
  Check.faultIf a.assignments.isEmpty (.incompleteStage a.form.name .noAssignment) ++
    a.assignments.flatMap fun (f, o) => .path f :: o.checks

def Group.checks (g : Group) : List Check :=
  g.key.toList.flatMap Operand.checks ++
    g.accumulators.flatMap fun (name, e) =>
      Check.faultIf (name = identityField) (.incompleteStage "$group" .reservedAccumulator) ++
        e.checks

def SortBy.checks (s : SortBy) : List Check :=
  Check.faultIf s.keys.isEmpty (.incompleteStage "$sort" .noSortKey) ++
    s.keys.map fun (f, _) => .path f

-- The output field has to be there from the start, but its name is checked at the end.
def Lookup.checks (inner : List Check) (l : Lookup Stage) : List Check :=
  Check.faultIf l.output.isNone (.incompleteStage "$lookup" .noOutputField) ++
    l.localField.toList.map .path ++ l.foreignField.toList.map .path ++
    Operand.checksOfBindings l.bindings ++ inner ++ l.output.toList.map .path

def Unwind.checks (u : Unwind) : List Check :=
  match u.path with
  | none => []
  | some path => .path path :: u.arrayIndex.toList.map .path

def UnionWith.checks (inner : List Check) (u : UnionWith Stage) : List Check :=
  match u.collection with
  | none => []
  | some _ => inner

def Search.checks (s : Search) : List Check :=
  Check.faultIf s.operator.isNone (.incompleteStage s.form.name .noSearchOperator) ++
    s.operator.toList.flatMap Search.Operator.checks

namespace Stage

mutual

def checks : Stage → List Check
  | .project p => p.checks
  | .assign a => a.checks
  | .group g => g.checks
  | .sort s => s.checks
  | .lookup l@⟨_, _, _, _, pipeline, _⟩ => l.checks (checksOfInner pipeline)
  | .unwind u => u.checks
  | .unionWith u@⟨_, pipeline⟩ => u.checks (checksOfInner pipeline)
  | .facet ⟨facets⟩ =>
    Check.faultIf facets.isEmpty (.incompleteStage "$facet" .noFacet) ++ checksOfFacets facets
  | .search s => s.checks
  | .count _ => []
  | .filter c => c.queryChecks
  | .filterExpression e => e.checks
  | .limit _ => []
  | .skip _ => []
  | .sample _ => []
  -- The fields are named before they are counted.
  | .unset fields =>
    fields.map .path ++ Check.faultIf fields.isEmpty (.incompleteStage "$unset" .noField)
  | .replaceRoot o => o.checks
  | .replaceWith o => o.checks
  | .sortByCount o => o.checks
  | .documents _ => []
  | .raw _ => []
termination_by structural s => s

def checksOfAll : List Stage → List Check
  | [] => []
  | s :: ss => s.checks ++ checksOfAll ss
termination_by structural ss => ss

def checksOfInner : Option (List Stage) → List Check
  | none => []
  | some stages => checksOfAll stages
termination_by structural stages => stages

def checksOfFacets : List (String × List Stage) → List Check
  | [] => []
  | (_, stages) :: facets => checksOfAll stages ++ checksOfFacets facets
termination_by structural facets => facets

end

end Stage

namespace Pipeline

def checks (p : Pipeline) : List Check :=
  Stage.checksOfAll p

def properties (p : Pipeline) : List Property :=
  p.checks.flatMap Check.properties

def instants (p : Pipeline) : List Instant :=
  p.checks.flatMap Check.instants

/--
What is wrong about a pipeline in a context, in the order in which it is noticed.
-/
def faults (ctx : Context) (p : Pipeline) : List Error :=
  p.checks.filterMap (Check.fault? ctx)

end Pipeline

end Aggregation
