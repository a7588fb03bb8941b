import Aggregation.Bson.Decode
import Aggregation.Proofs.Criteria.Form
import Aggregation.Proofs.Criteria.Negation
import Aggregation.Proofs.Resolution.Check
import Aggregation.Proofs.Resolution.Substitution

/-!
This module contains computations that make checks in a fixed order and depend on nothing but the
answers. The resolution of operands, expressions, criteria and search operators is one of them.
-/

namespace Aggregation

structure Environment where
  context : Context
  replacement : Replacement

namespace Check

def answer (c : Environment) : Check → Except Error Bson
  | .path f => return .string (← (f.substitute c.replacement).resolve c.context)
  | .reference f => (Operand.ofPath (f.substitute c.replacement)).resolve c.context
  | .instant t => return c.context.encodeInstant t
  | .fault e => throw e

end Check

/--
A computation that makes the checks one after the other, up to the first that fails, and goes on
with their answers.
-/
inductive Asks : List Check → (Environment → Except Error α) → Prop
  | pure (a : α) : Asks [] fun _ => pure a
  | ask {k : Check} {ks : List Check} {x : Bson → Environment → Except Error α}
      (h : ∀ v, Asks ks (x v)) : Asks (k :: ks) fun c => k.answer c >>= fun v => x v c

namespace Asks

variable {α β : Type} {ks ls : List Check}

theorem congr {x : Environment → Except Error α} (h : Asks ks x) (c c' : Environment)
    (hc : ∀ k ∈ ks, k.answer c = k.answer c') : x c = x c' := by
  induction h with
  | pure a => rfl
  | @ask k ks x _ ih =>
    simp only [List.mem_cons, forall_eq_or_imp] at hc
    simp only
    rw [hc.left]
    cases k.answer c' with
    | error e => rfl
    | ok v => exact ih v hc.right

theorem bind {x : Environment → Except Error α} {y : α → Environment → Except Error β} (hx : Asks ks x)
    (hy : ∀ a, Asks ls (y a)) : Asks (ks ++ ls) fun c => x c >>= fun a => y a c := by
  induction hx with
  | pure a => exact hy a
  | ask _ ih =>
    simp only [bind_assoc, List.cons_append]
    apply ask
    exact ih

theorem map {x : Environment → Except Error α} (hx : Asks ks x) (f : α → β)
    : Asks ks fun c => x c >>= fun a => Pure.pure (f a) := by
  rw [← List.append_nil ks]
  apply hx.bind
  intro a
  exact pure (f a)

theorem fail [Inhabited α] (e : Error) (ks : List Check)
    : Asks (α := α) (.fault e :: ks) fun _ => throw e := by
  have anything : Asks ks fun c => ks.mapM (Check.answer c) >>= fun _ => Pure.pure (default : α) := by
    induction ks with
    | nil => exact pure default
    | cons k ks ih =>
      simp only [List.mapM_cons, bind_assoc, pure_bind]
      apply ask
      intro v
      exact ih
  exact ask fun _ => anything

theorem guard [Inhabited α] {x : Environment → Except Error α} (b : Bool) (e : Error)
    (hx : Asks ks x) : Asks (Check.faultIf b e ++ ks) fun c => if b = true then throw e else x c := by
  cases b with
  | false => exact hx
  | true => exact fail e ks

theorem mapM {l : List ι} {ks : ι → List Check} {x : ι → Environment → Except Error α}
    (h : ∀ i ∈ l, Asks (ks i) (x i)) : Asks (l.flatMap ks) fun c => l.mapM fun i => x i c := by
  induction l with
  | nil => exact pure []
  | cons i l ih =>
    simp only [List.mapM_cons, List.flatMap_cons]
    rw [List.forall_mem_cons] at h
    apply h.left.bind
    intro a
    exact (ih h.right).map fun as => a :: as

theorem path (f : FieldPath)
    : Asks [.path f] fun c => (f.substitute c.replacement).resolve c.context := by
  have h : Asks [.path f] fun c => do
      let v ← (Check.path f).answer c
      return v.text?.getD "" := by
    apply ask
    intro v
    exact pure (v.text?.getD "")
  simpa [Check.answer, Bson.text?] using h

theorem reference (f : FieldPath)
    : Asks [.reference f] fun c => (Operand.ofPath (f.substitute c.replacement)).resolve c.context := by
  have h : Asks [.reference f] fun c => (Check.reference f).answer c >>= Pure.pure := by
    apply ask
    exact pure
  simpa [Check.answer] using h

theorem instant (t : Instant)
    : Asks [.instant t] fun c => Pure.pure (c.context.encodeInstant t) := by
  have h : Asks [.instant t] fun c => (Check.instant t).answer c >>= Pure.pure := by
    apply ask
    exact pure
  simpa [Check.answer] using h

end Asks

namespace Criteria

theorem checksOfAll_eq_flatMap (valueFault? : FieldOperator → Bson → Option CriteriaFault)
    (cs : List Criteria) : checksOfAll valueFault? cs = cs.flatMap (checks valueFault?) := by
  induction cs with
  | nil => rw [checksOfAll, List.flatMap_nil]
  | cons c cs ih => rw [checksOfAll, ih, List.flatMap_cons]

theorem nonEmpty_bind (combinator : Combinator) (parts : List Criteria) (x : Except Error α)
    : (nonEmpty combinator parts >>= fun _ => x) =
        if parts.isEmpty = true then throw (.invalidCriteria (.noPart combinator)) else x := by
  unfold nonEmpty
  split <;> rfl

section

variable {F : Context → Form} {k : String}
  {valueFault? : FieldOperator → Bson → Option CriteriaFault}

theorem asks_combination {parts : List Criteria}
    (ih : ∀ c ∈ parts, Asks (c.checks valueFault?) fun c' =>
      (F c'.context).write (c.substitute c'.replacement))
    (combinator : Combinator) (key : String)
    : Asks (Check.faultIf parts.isEmpty (.invalidCriteria (.noPart combinator)) ++
          checksOfAll valueFault? parts)
        fun c => do
          nonEmpty combinator (substituteAll c.replacement parts)
          let ds ← (substituteAll c.replacement parts).mapM (F c.context).write
          return Document.single key (.array (ds.map .document)) := by
  simp only [nonEmpty_bind, substituteAll_eq_map, List.isEmpty_map, List.mapM_map]
  rw [checksOfAll_eq_flatMap]
  apply Asks.guard
  exact (Asks.mapM ih).map _

theorem asks_write (hk : ∀ ctx, (F ctx).negationKey = k)
    (leaf : ∀ l : Leaf, Asks (l.toCriteria.checks valueFault?) fun c =>
      (F c.context).write (l.toCriteria.substitute c.replacement))
    (c : Criteria)
    : Asks (c.checks valueFault?) fun c' => (F c'.context).write (c.substitute c'.replacement) := by
  induction c with
  | all parts ih =>
    simp only [checks, substitute, Form.write_all]
    exact asks_combination ih .and "$and"
  | any parts ih =>
    simp only [checks, substitute, Form.write_any]
    exact asks_combination ih .or "$or"
  | negation part ih =>
    simp only [checks, substitute, Form.write_negation, hk]
    exact ih.map _
  | presence f expected => exact leaf (.presence f expected)
  | field f operator value => exact leaf (.field f operator value)

end

theorem asks_condition (operator : FieldOperator) (value : Bson)
    : Asks ((operator.conditionFault? value).toList.map fun fault => .fault (.invalidCriteria fault))
        fun _ => condition operator value := by
  cases operator
  case contains | notContains =>
    cases value
    case string | array => exact .pure _
    all_goals exact .fail _ _
  case startsWith | endsWith =>
    cases value
    case string => exact .pure _
    all_goals exact .fail _ _
  all_goals exact .pure _

theorem asks_query (c : Criteria)
    : Asks c.queryChecks fun c' => (c.substitute c'.replacement).query c'.context := by
  apply asks_write (F := .query) (k := "$nor")
  . intro ctx
    rfl
  . intro l
    cases l with
    | presence f expected =>
      exact (Asks.path f).map _
    | field f operator value =>
      apply (Asks.path f).bind
      intro path
      exact (asks_condition operator value).map _

theorem asks_containment (reference : String) (value : Bson)
    : Asks ((FieldOperator.conditionFault? .contains value).toList.map fun fault =>
        .fault (.invalidCriteria fault)) fun _ => containment reference value := by
  cases value
  case string | array => exact .pure _
  all_goals exact .fail _ _

theorem asks_test (reference : String) {operator : FieldOperator} (h : operator ≠ .notContains)
    (value : Bson)
    : Asks ((operator.testFault? value).toList.map fun fault => .fault (.invalidCriteria fault))
        fun c => test c.context reference operator value := by
  cases operator
  case contains => exact asks_containment reference value
  case notContains => exact absurd rfl h
  case startsWith | endsWith =>
    cases value
    case string => exact .pure _
    all_goals exact .fail _ _
  all_goals exact .pure _

theorem asks_field (f : FieldPath) (operator : FieldOperator) (value : Bson)
    : Asks (field f operator value).expressionChecks fun c =>
        (field (f.substitute c.replacement) operator value).expression c.context := by
  have plain (operator : FieldOperator) (h : operator ≠ .notContains)
      : Asks (field f operator value).expressionChecks fun c =>
          (field (f.substitute c.replacement) operator value).expression c.context := by
    apply ((Asks.path f).map _).bind
    intro reference
    exact asks_test reference h value
  by_cases h : operator = .notContains
  . -- The reference is looked up again, but nothing is asked for that.
    subst h
    simp only [expression_notContains, map_eq_pure_bind]
    exact (plain .contains (by decide)).map _
  . exact plain operator h

theorem asks_expression (c : Criteria)
    : Asks c.expressionChecks fun c' => (c.substitute c'.replacement).expression c'.context := by
  apply asks_write (F := .expression) (k := "$not")
  . intro ctx
    rfl
  . intro l
    cases l with
    | presence f expected =>
      exact ((Asks.path f).map _).map _
    | field f operator value => exact asks_field f operator value

end Criteria

namespace Search

mutual

theorem Operator.asks (o : Operator)
    : Asks o.checks fun c => (o.substitute c.replacement).resolve c.context := by
  cases o with
  | text query path | phrase query path | presence path | equals path value =>
    exact (Asks.path path).map _
  | range r =>
    simp only [Operator.checks, Operator.substitute, Operator.resolve]
    exact (Asks.path r.path).map _
  | compound c =>
    simp only [Operator.checks, Operator.substitute, Operator.resolve, Operator.isEmpty_substituteAll,
      Except.throw_bind, List.append_assoc]
    apply Asks.guard
    apply (Operator.asksAll c.must).bind
    intro must
    apply (Operator.asksAll c.mustNot).bind
    intro mustNot
    apply (Operator.asksAll c.should).bind
    intro should
    exact (Operator.asksAll c.filter).map _

theorem Operator.asksAll (os : List Operator)
    : Asks (Operator.checksOfAll os) fun c =>
        Operator.resolveAll c.context (Operator.substituteAll c.replacement os) := by
  cases os with
  | nil => exact .pure []
  | cons o os =>
    apply o.asks.bind
    intro d
    exact (Operator.asksAll os).map _

end

end Search

mutual

theorem Operand.asks (o : Operand)
    : Asks o.checks fun c => (o.substitute c.replacement).resolve c.context := by
  cases o with
  | literal v => exact .pure v
  | field path => exact .reference (.name path)
  | property p => exact .reference (.property p)
  | expression e => exact e.asks
  | reference name => exact .pure _
  | instant t => exact .instant t

theorem Expression.asks (e : Expression)
    : Asks e.checks fun c => (e.substitute c.replacement).resolve c.context := by
  cases e with
  | operand o => exact o.asks
  | list operator first rest =>
    apply first.asks.bind
    intro v
    exact (Operand.asksAll rest).map _
  | pair operator first second =>
    apply first.asks.bind
    intro v
    exact second.asks.map _
  | not o => exact o.asks.map _
  | cond condition consequence alternative =>
    rw [Expression.checks, List.append_assoc]
    apply condition.asks.bind
    intro condition
    apply consequence.asks.bind
    intro consequence
    exact alternative.asks.map _
  | ifNull first rest replacement =>
    rw [Expression.checks, List.append_assoc]
    apply first.asks.bind
    intro v
    apply (Operand.asksAll rest).bind
    intro vs
    exact replacement.asks.map _
  | switch branches default =>
    simp only [Expression.checks, Expression.substitute, Expression.resolve,
      Expression.isEmpty_substituteBranches, Except.throw_bind, List.append_assoc]
    apply Asks.guard
    apply (Expression.asksBranches branches).bind
    intro branches
    exact (Operand.asksDefault default).map _
  | bind bindings body =>
    apply (Operand.asksBindings bindings).bind
    intro bindings
    exact (Expression.asksBody body).map _
  | literal v => exact .pure _
  | metadata keyword => exact .pure _
  | criteria c => exact c.asks_expression.map _
  | accumulate operator o => exact o.asks.map _
  | countAll => exact .pure _

theorem Operand.asksAll (os : List Operand)
    : Asks (Operand.checksOfAll os) fun c =>
        Operand.resolveAll c.context (Operand.substituteAll c.replacement os) := by
  cases os with
  | nil => exact .pure []
  | cons o os =>
    apply o.asks.bind
    intro v
    exact (Operand.asksAll os).map _

theorem Expression.asksBranches (branches : List (Expression × Operand))
    : Asks (Expression.checksOfBranches branches) fun c =>
        Expression.resolveBranches c.context
          (Expression.substituteBranches c.replacement branches) := by
  cases branches with
  | nil => exact .pure []
  | cons b branches =>
    rcases b with ⟨e, o⟩
    rw [Expression.checksOfBranches, List.append_assoc]
    apply e.asks.bind
    intro case
    apply o.asks.bind
    intro result
    exact (Expression.asksBranches branches).map _

theorem Operand.asksDefault (default : Option Operand)
    : Asks (Operand.checksOfDefault default) fun c =>
        Operand.resolveDefault c.context (Operand.substituteDefault c.replacement default) := by
  cases default with
  | none => exact .pure []
  | some o => exact o.asks.map _

theorem Operand.asksBindings (bindings : List (String × Operand))
    : Asks (Operand.checksOfBindings bindings) fun c =>
        Operand.resolveBindings c.context
          (Operand.substituteBindings c.replacement bindings) := by
  cases bindings with
  | nil => exact .pure []
  | cons b bindings =>
    rcases b with ⟨name, o⟩
    apply o.asks.bind
    intro v
    exact (Operand.asksBindings bindings).map _

theorem Expression.asksBody (body : Option Expression)
    : Asks (Expression.checksOfBody body) fun c =>
        Expression.resolveBody c.context (Expression.substituteBody c.replacement body) := by
  cases body with
  | none => exact .pure _
  | some e => exact e.asks

end

end Aggregation
