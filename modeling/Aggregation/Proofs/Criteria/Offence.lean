import Aggregation.Proofs.Resolution.Fault

/-!
This module contains what is wrong about criteria, node by node. The two forms accept the same
criteria and otherwise report the first node that is wrong. An expression is mistaken about the
operator if the node tests that a field does not contain a value.
-/

namespace Aggregation

namespace FieldOperator

def refusal : FieldOperator → CriteriaFault
  | .startsWith => .notText .startsWith
  | .endsWith => .notText .endsWith
  | operator => .notTextOrArray operator

def tested : FieldOperator → FieldOperator
  | .notContains => .contains
  | operator => operator

theorem conditionFault?_eq_refusal (operator : FieldOperator) (value : Bson)
    : operator.conditionFault? value =
        (operator.conditionFault? value).map fun _ => operator.refusal := by
  cases operator
  case contains | notContains | startsWith | endsWith => cases value <;> rfl
  all_goals rfl

theorem testFault?_eq_refusal (operator : FieldOperator) (value : Bson)
    : operator.testFault? value =
        (operator.conditionFault? value).map fun _ => operator.tested.refusal := by
  cases operator
  case contains | notContains | startsWith | endsWith => cases value <;> rfl
  all_goals rfl

theorem conditionFault?_eq_none {operator : FieldOperator} {value : Bson}
    : operator.conditionFault? value = none ↔
        (operator = .startsWith ∨ operator = .endsWith → ∃ s, value = .string s) ∧
        (operator = .contains ∨ operator = .notContains →
          (∃ s, value = .string s) ∨ ∃ items, value = .array items) := by
  cases operator
  case contains | notContains | startsWith | endsWith =>
    cases value <;> simp [conditionFault?]
  all_goals simp [conditionFault?]

end FieldOperator

theorem FieldPath.exists_resolve_iff {ctx : Context} {f : FieldPath}
    : (∃ path, f.resolve ctx = .ok path) ↔ f.fault? ctx = none := by
  rw [Except.exists_eq_ok, Option.eq_none_iff_forall_ne_some]
  simp only [resolve_eq_error]

/-- The message is about a value that the operator does not take. -/
def Error.Names (e : Error) (operator : FieldOperator) : Prop :=
  ∃ wanted, e.message = "Invalid criteria: " ++ operator.name ++ " requires " ++ wanted

namespace Criteria

mutual

/--
The criteria and all criteria inside, depth first and from left to right.
-/
def nodes : Criteria → List Criteria
  | .all parts => .all parts :: nodesOfAll parts
  | .any parts => .any parts :: nodesOfAll parts
  | .negation part => .negation part :: part.nodes
  | .presence f expected => [.presence f expected]
  | .field f operator value => [.field f operator value]

def nodesOfAll : List Criteria → List Criteria
  | [] => []
  | c :: cs => c.nodes ++ nodesOfAll cs

end

structure Acceptable (ctx : Context) (c : Criteria) : Prop where
  all_ne_nil : ∀ parts, .all parts ∈ c.nodes → parts ≠ []
  any_ne_nil : ∀ parts, .any parts ∈ c.nodes → parts ≠ []
  resolves : ∀ l : Leaf, l.toCriteria ∈ c.nodes → ∃ path, l.path.resolve ctx = .ok path
  isText : ∀ f operator value, .field f operator value ∈ c.nodes →
    operator = .startsWith ∨ operator = .endsWith → ∃ s, value = .string s
  isTextOrArray : ∀ f operator value, .field f operator value ∈ c.nodes →
    operator = .contains ∨ operator = .notContains →
      (∃ s, value = .string s) ∨ ∃ items, value = .array items

inductive Offence where
  | noPart (combinator : Combinator)
  | path (reason : Error)
  | value (operator : FieldOperator)

def Offence.error (named : FieldOperator → FieldOperator) : Offence → Error
  | .noPart combinator => .invalidCriteria (.noPart combinator)
  | .path reason => reason
  | .value operator => .invalidCriteria (named operator).refusal

/--
What is wrong about the criteria on their own, whatever the criteria inside are.
-/
def offence? (ctx : Context) : Criteria → Option Offence
  | .all parts => if parts.isEmpty then some (.noPart .and) else none
  | .any parts => if parts.isEmpty then some (.noPart .or) else none
  | .negation _ => none
  | .presence f _ => (f.fault? ctx).map .path
  | .field f operator value =>
    ((f.fault? ctx).map .path).or ((operator.conditionFault? value).map fun _ => .value operator)

def firstOffence? (ctx : Context) (c : Criteria) : Option Offence :=
  c.nodes.findSome? (offence? ctx)

variable {ctx : Context}

section

variable {parts : List Criteria} {f : FieldPath} {expected : Bool} {operator : FieldOperator}
  {value : Bson}

theorem offence?_all_eq_none : offence? ctx (.all parts) = none ↔ parts ≠ [] := by
  simp [offence?]

theorem offence?_any_eq_none : offence? ctx (.any parts) = none ↔ parts ≠ [] := by
  simp [offence?]

theorem offence?_presence_eq_none
    : offence? ctx (.presence f expected) = none ↔ ∃ path, f.resolve ctx = .ok path := by
  rw [offence?, Option.map_eq_none_iff, FieldPath.exists_resolve_iff]

theorem offence?_field_eq_none
    : offence? ctx (.field f operator value) = none ↔
        (∃ path, f.resolve ctx = .ok path) ∧ operator.conditionFault? value = none := by
  rw [offence?, Option.or_eq_none_iff, Option.map_eq_none_iff, Option.map_eq_none_iff,
    FieldPath.exists_resolve_iff]

end

theorem acceptable_iff {c : Criteria}
    : c.Acceptable ctx ↔ ∀ d ∈ c.nodes, d.offence? ctx = none := by
  constructor
  . intro h d hd
    cases d with
    | all parts =>
      rw [offence?_all_eq_none]
      exact h.all_ne_nil parts hd
    | any parts =>
      rw [offence?_any_eq_none]
      exact h.any_ne_nil parts hd
    | negation part => rw [offence?]
    | presence f expected =>
      rw [offence?_presence_eq_none]
      exact h.resolves (.presence f expected) hd
    | field f operator value =>
      rw [offence?_field_eq_none, FieldOperator.conditionFault?_eq_none]
      exact ⟨h.resolves (.field f operator value) hd, h.isText f operator value hd,
        h.isTextOrArray f operator value hd⟩
  . intro h
    have field {f operator value} (hd : .field f operator value ∈ c.nodes) := h _ hd
    simp only [offence?_field_eq_none, FieldOperator.conditionFault?_eq_none] at field
    constructor
    . intro parts hd
      rw [← offence?_all_eq_none]
      exact h _ hd
    . intro parts hd
      rw [← offence?_any_eq_none]
      exact h _ hd
    . intro l hl
      cases l with
      | presence f expected =>
        have hf := h _ hl
        rw [Leaf.toCriteria, offence?_presence_eq_none] at hf
        exact hf
      | field f operator value => exact (field hl).left
    . intro f operator value hd
      exact (field hd).right.left
    . intro f operator value hd
      exact (field hd).right.right

section

variable {valueFault? : FieldOperator → Bson → Option CriteriaFault}

theorem findSome?_checksOfAll {named : FieldOperator → FieldOperator} {cs : List Criteria}
    (ih : ∀ c ∈ cs, (c.checks valueFault?).findSome? (Check.fault? ctx) =
      (c.firstOffence? ctx).map (Offence.error named))
    : (checksOfAll valueFault? cs).findSome? (Check.fault? ctx) =
        ((nodesOfAll cs).findSome? (offence? ctx)).map (Offence.error named) := by
  induction cs with
  | nil => rfl
  | cons c cs ihcs =>
    rw [List.forall_mem_cons] at ih
    rw [checksOfAll, nodesOfAll, List.findSome?_append, List.findSome?_append, Option.map_or]
    rw [ih.left, ihcs ih.right, firstOffence?]

/-- The first check that fails is about the first node that is wrong. -/
theorem findSome?_checks (named : FieldOperator → FieldOperator)
    (h : ∀ operator value, valueFault? operator value =
      (operator.conditionFault? value).map fun _ => (named operator).refusal)
    (c : Criteria)
    : (c.checks valueFault?).findSome? (Check.fault? ctx) =
        (c.firstOffence? ctx).map (Offence.error named) := by
  induction c with
  | all parts ih =>
    rw [checks, firstOffence?, nodes, List.findSome?_append, findSome?_checksOfAll ih]
    cases parts with
    | nil => rfl
    | cons c cs => rfl
  | any parts ih =>
    rw [checks, firstOffence?, nodes, List.findSome?_append, findSome?_checksOfAll ih]
    cases parts with
    | nil => rfl
    | cons c cs => rfl
  | negation part ih => exact ih
  | presence f expected =>
    rw [checks, firstOffence?, nodes, List.findSome?_singleton, List.findSome?_singleton]
    rw [Check.fault?, offence?, Option.map_map]
    exact Option.map_id'.symm
  | field f operator value =>
    rw [checks, firstOffence?, nodes, List.findSome?_cons, List.findSome?_singleton]
    rw [Check.fault?, offence?, h]
    cases f.fault? ctx with
    | some e => rfl
    | none => cases operator.conditionFault? value <;> rfl

end

variable {c : Criteria} {e : Error}

theorem query_eq_error
    : c.query ctx = .error e ↔ (c.firstOffence? ctx).map (Offence.error id) = some e := by
  have h := c.asks_query.eq_error ctx e
  rw [substitute_property, List.head?_filterMap, queryChecks] at h
  rw [h, findSome?_checks id FieldOperator.conditionFault?_eq_refusal]

theorem expression_eq_error
    : c.expression ctx = .error e ↔
        (c.firstOffence? ctx).map (Offence.error FieldOperator.tested) = some e := by
  have h := c.asks_expression.eq_error ctx e
  rw [substitute_property, List.head?_filterMap, expressionChecks] at h
  rw [h, findSome?_checks .tested FieldOperator.testFault?_eq_refusal]

theorem exists_eq_ok_iff_acceptable {x : Except Error Document}
    {named : FieldOperator → FieldOperator}
    (h : ∀ e, x = .error e ↔ (c.firstOffence? ctx).map (Offence.error named) = some e)
    : (∃ d, x = .ok d) ↔ c.Acceptable ctx := by
  rw [acceptable_iff, ← List.findSome?_eq_none_iff, Except.exists_eq_ok]
  simp only [h]
  rw [← Option.eq_none_iff_forall_ne_some, Option.map_eq_none_iff, firstOffence?]

theorem accepted_iff_acceptable (ctx : Context) (c : Criteria)
    : ((∃ q, c.query ctx = .ok q) ↔ ∃ e, c.expression ctx = .ok e) ∧
        ((∃ q, c.query ctx = .ok q) ↔ c.Acceptable ctx) ∧
        ((∃ e, c.expression ctx = .ok e) ↔ c.Acceptable ctx) := by
  have hquery : (∃ q, c.query ctx = .ok q) ↔ c.Acceptable ctx := by
    apply exists_eq_ok_iff_acceptable
    intro e
    exact query_eq_error
  have hexpression : (∃ e, c.expression ctx = .ok e) ↔ c.Acceptable ctx := by
    apply exists_eq_ok_iff_acceptable
    intro e
    exact expression_eq_error
  exact ⟨hquery.trans hexpression.symm, hquery, hexpression⟩

theorem Offence.names_error (named : FieldOperator → FieldOperator) (operator : FieldOperator)
    : (Offence.error named (.value operator)).Names (named operator) := by
  rw [error]
  cases named operator
  case startsWith | endsWith => exact ⟨"a string value", by rfl⟩
  all_goals exact ⟨"a string or array value", by rfl⟩

theorem Offence.error_eq_error_iff (o : Offence)
    : o.error id = o.error FieldOperator.tested ↔ o ≠ .value .notContains := by
  cases o with
  | noPart combinator => simp [error]
  | path reason => simp [error]
  | value operator => cases operator <;> simp [error, FieldOperator.refusal, FieldOperator.tested]

/--
The first node that is wrong is the one that is reported. An expression reports the negated test of
containment as the plain one.
-/
theorem refused_for_firstOffence (h : c.query ctx = .error e ∨ c.expression ctx = .error e)
    : ∃ o, c.firstOffence? ctx = some o ∧
        c.query ctx = .error (o.error id) ∧
        c.expression ctx = .error (o.error FieldOperator.tested) ∧
        (c.query ctx = c.expression ctx ↔ o ≠ .value .notContains) ∧
        ∀ operator, o = .value operator → (o.error id).Names operator ∧
          (o.error FieldOperator.tested).Names operator.tested := by
  have hfirst : ∃ o, c.firstOffence? ctx = some o := by
    rw [query_eq_error, expression_eq_error, Option.map_eq_some_iff, Option.map_eq_some_iff] at h
    rcases h with ⟨o, ho, _⟩ | ⟨o, ho, _⟩
    . exact ⟨o, ho⟩
    . exact ⟨o, ho⟩
  rcases hfirst with ⟨o, ho⟩
  have hquery : c.query ctx = .error (o.error id) := by
    rw [query_eq_error, ho, Option.map_some]
  have hexpression : c.expression ctx = .error (o.error FieldOperator.tested) := by
    rw [expression_eq_error, ho, Option.map_some]
  refine ⟨o, ho, hquery, hexpression, ?_, ?_⟩
  . rw [hquery, hexpression, Except.error.injEq, o.error_eq_error_iff]
  . intro operator hvalue
    rw [hvalue]
    exact ⟨Offence.names_error id operator, Offence.names_error .tested operator⟩

def misfits : Criteria :=
  .all [
    .presence (.name "age") true,
    .negation (.any [
      .field (.name "name") .startsWith (.int32 5),
      .field (.name "tags") .notContains (.int32 5)])]

theorem refused_misfits
    : misfits.query {} = .error (.invalidCriteria (.notText .startsWith)) ∧
        ∃ o, misfits.firstOffence? {} = some o ∧
          misfits.query {} = .error (o.error id) ∧
          misfits.expression {} = .error (o.error FieldOperator.tested) ∧
          (misfits.query {} = misfits.expression {} ↔ o ≠ .value .notContains) ∧
          ∀ operator, o = .value operator → (o.error id).Names operator ∧
            (o.error FieldOperator.tested).Names operator.tested := by
  have h : misfits.query {} = .error (.invalidCriteria (.notText .startsWith)) := by rfl
  exact ⟨h, refused_for_firstOffence (.inl h)⟩

theorem notContains_refused_as_contains
    : query {} (.field (.name "tags") .notContains (.int32 5)) =
          .error (.invalidCriteria (.notTextOrArray .notContains)) ∧
        expression {} (.field (.name "tags") .notContains (.int32 5)) =
          .error (.invalidCriteria (.notTextOrArray .contains)) ∧
        (Error.invalidCriteria (.notTextOrArray .notContains)).message ≠
          (Error.invalidCriteria (.notTextOrArray .contains)).message := by
  refine ⟨by rfl, by rfl, by decide⟩

end Criteria

end Aggregation
