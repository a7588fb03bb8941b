import Aggregation.Proofs.Criteria.Negation
import Aggregation.Proofs.Document
import Aggregation.Proofs.Except

/-!
This module contains the tests of whether a field contains the items of an array. The negated test
of a query asks for none of the items, the one of an expression for not all of them.
-/

namespace Aggregation

/--
An engine that looks up fields in documents, selects documents by queries and evaluates expressions
on them.
-/
structure Engine where
  value : Document → String → Option Bson
  isIn : Bson → List Bson → Prop
  selects : Document → Document → Prop
  isTrue : Document → Document → Prop

namespace Engine

def Within (E : Engine) (as bs : List Bson) : Prop :=
  ∀ a ∈ as, E.isIn a bs

def Apart (E : Engine) (as bs : List Bson) : Prop :=
  ∀ a ∈ as, ¬ E.isIn a bs

/-- What the operators on arrays mean to an engine, where a field holds the array `bs`. -/
structure Laws (E : Engine) : Prop where
  all_iff : ∀ d path as bs, E.value d path = some (.array bs) →
    (E.selects (.single path (.single "$all" (.array as))) d ↔ as ≠ [] ∧ E.Within as bs)
  nin_iff : ∀ d path as bs, E.value d path = some (.array bs) →
    (E.selects (.single path (.single "$nin" (.array as))) d ↔ E.Apart as bs)
  setIsSubset_iff : ∀ d path as bs, E.value d path = some (.array bs) →
    (∀ a ∈ as, a.literal = a) →
    (E.isTrue (Criteria.binary "$setIsSubset" (.array as) (.string (FieldPath.marked path))) d ↔
      E.Within as bs)
  not_iff : ∀ d e, E.isTrue (.single "$not" (.array [.document e])) d ↔ ¬ E.isTrue e d

variable {E : Engine} {as bs : List Bson}

theorem eq_nil_of_within_of_apart (hwithin : E.Within as bs) (hapart : E.Apart as bs)
    : as = [] := by
  cases as with
  | nil => rfl
  | cons a as =>
    have hin := hwithin a (by simp)
    exact absurd hin (hapart a (by simp))

theorem within_nil : E.Within [] bs := by
  simp [Within]

theorem apart_nil : E.Apart [] bs := by
  simp [Apart]

theorem apart_iff_not_within_iff (h : as ≠ [])
    : (E.Apart as bs ↔ ¬ E.Within as bs) ↔ E.Within as bs ∨ E.Apart as bs := by
  constructor
  . intro hiff
    by_cases hwithin : E.Within as bs
    . exact .inl hwithin
    . exact .inr (hiff.mpr hwithin)
  . intro hor
    constructor
    . intro hapart hwithin
      exact h (eq_nil_of_within_of_apart hwithin hapart)
    . intro hwithin
      cases hor with
      | inl hwithin' => exact absurd hwithin' hwithin
      | inr hapart => exact hapart

namespace Memory

def value (d : Document) (path : String) : Option Bson :=
  if path.toList.head? = some '$' then none else d.get? path

def selects : Document → Document → Prop
  | [(path, .document [("$all", .array as)])], d =>
    ∃ bs, value d path = some (.array bs) ∧ as ≠ [] ∧ ∀ a ∈ as, a ∈ bs
  | [(path, .document [("$nin", .array as)])], d =>
    ∀ bs, value d path = some (.array bs) → ∀ a ∈ as, a ∉ bs
  | _, _ => False

def isTrue : Document → Document → Prop
  | [("$not", .array [.document e])], d => ¬ isTrue e d
  | [("$setIsSubset", .array [.array as, .string reference])], d =>
    ∃ path bs, FieldPath.marked path = reference ∧ value d path = some (.array bs) ∧
      ∀ a ∈ as, a ∈ bs
  | _, _ => False

theorem marked_injective {d : Document} {p q : String} {v w : Bson} (hp : value d p = some v)
    (hq : value d q = some w) (h : FieldPath.marked p = FieldPath.marked q) : p = q := by
  unfold value at hp hq
  split at hp
  . simp at hp
  next hp' =>
    split at hq
    . simp at hq
    next hq' => simpa [FieldPath.marked, hp', hq'] using h

end Memory

/-- An engine that knows the operators on arrays, for fields at the top of documents. -/
def memory : Engine where
  value := Memory.value
  isIn a bs := a ∈ bs
  selects := Memory.selects
  isTrue := Memory.isTrue

theorem memory_laws : memory.Laws where
  all_iff := by
    intro d path as bs (h : Memory.value d path = some (.array bs))
    simp [memory, Memory.selects, Document.single, Bson.single, Within, h]
  nin_iff := by
    intro d path as bs (h : Memory.value d path = some (.array bs))
    simp [memory, Memory.selects, Document.single, Bson.single, Apart, h]
  setIsSubset_iff := by
    intro d path as bs (h : Memory.value d path = some (.array bs)) _
    simp only [memory, Memory.isTrue, Criteria.binary, Document.single, Within]
    constructor
    . intro hexists
      rcases hexists with ⟨p, cs, hp, hcs, hall⟩
      have heq := Memory.marked_injective hcs h hp
      rw [heq, h, Option.some.injEq, Bson.array.injEq] at hcs
      rw [hcs]
      exact hall
    . intro hall
      exact ⟨path, bs, rfl, h, hall⟩
  not_iff := by
    intro d e
    simp [memory, Memory.isTrue, Document.single]

end Engine

namespace Bson

theorem literals_eq_self {vs : List Bson} (h : ∀ v ∈ vs, v.literal = v) : literals vs = vs := by
  induction vs with
  | nil => rw [literals]
  | cons v vs ih =>
    rw [literals]
    rw [h v (by simp), ih (by simp_all)]

end Bson

namespace Criteria

variable {ctx : Context} {f : FieldPath} {path : String} {items : List Bson}

theorem query_contains_array (hf : f.resolve ctx = .ok path)
    : query ctx (.field f .contains (.array items)) =
        .ok (.single path (.single "$all" (.array items))) := by
  rw [query, hf]
  rfl

theorem query_notContains_array (hf : f.resolve ctx = .ok path)
    : query ctx (.field f .notContains (.array items)) =
        .ok (.single path (.single "$nin" (.array items))) := by
  rw [query, hf]
  rfl

theorem expression_contains_array (hf : f.resolve ctx = .ok path)
    (hitems : ∀ v ∈ items, v.literal = v)
    : expression ctx (.field f .contains (.array items)) =
        .ok (binary "$setIsSubset" (.array items) (.string (FieldPath.marked path))) := by
  simp [expression, FieldPath.reference, hf, test, containment, Bson.literals_eq_self hitems]

theorem expression_notContains_array (hf : f.resolve ctx = .ok path)
    (hitems : ∀ v ∈ items, v.literal = v)
    : expression ctx (.field f .notContains (.array items)) =
        .ok (.single "$not" (.array [.document
          (binary "$setIsSubset" (.array items) (.string (FieldPath.marked path)))])) := by
  rw [expression_notContains, expression_contains_array hf hitems]
  rfl

/--
The expressions are negations of each other. The queries are so only if all or none of the items are
in the field, and the forms agree only if there are items.
-/
theorem contains_notContains_iff {E : Engine} (laws : E.Laws) {d : Document} {bs : List Bson}
    (hf : f.resolve ctx = .ok path) (hitems : ∀ v ∈ items, v.literal = v)
    (hd : E.value d path = some (.array bs))
    : ∃ qc qn ec en : Document,
        query ctx (.field f .contains (.array items)) = .ok qc ∧
        query ctx (.field f .notContains (.array items)) = .ok qn ∧
        expression ctx (.field f .contains (.array items)) = .ok ec ∧
        expression ctx (.field f .notContains (.array items)) = .ok en ∧
        ((E.selects qn d ↔ ¬ E.selects qc d) ↔ E.Within items bs ∨ E.Apart items bs) ∧
        (E.isTrue en d ↔ ¬ E.isTrue ec d) ∧
        ((E.selects qc d ↔ E.isTrue ec d) ↔ items ≠ []) ∧
        ((E.selects qn d ↔ E.isTrue en d) ↔
          items ≠ [] ∧ (E.Within items bs ∨ E.Apart items bs)) := by
  refine ⟨_, _, _, _, query_contains_array hf, query_notContains_array hf,
    expression_contains_array hf hitems, expression_notContains_array hf hitems, ?_⟩
  rw [laws.all_iff d path items bs hd, laws.nin_iff d path items bs hd, laws.not_iff,
    laws.setIsSubset_iff d path items bs hd hitems]
  -- All and none of no items are in the field, so the empty list has to be taken apart.
  by_cases hempty : items = []
  . subst hempty
    simp [Engine.within_nil, Engine.apart_nil]
  . have hiff : (E.Apart items bs ↔ ¬ E.Within items bs) ↔
        E.Within items bs ∨ E.Apart items bs := by
      apply Engine.apart_iff_not_within_iff
      exact hempty
    simp [hempty, hiff]

def tagged : Document :=
  [("tags", .array [.int32 1, .int32 2])]

theorem contains_notContains_tagged
    : ∃ qc qn ec en : Document,
        query {} (.field (.name "tags") .contains (.array [.int32 1])) = .ok qc ∧
        query {} (.field (.name "tags") .notContains (.array [.int32 1])) = .ok qn ∧
        expression {} (.field (.name "tags") .contains (.array [.int32 1])) = .ok ec ∧
        expression {} (.field (.name "tags") .notContains (.array [.int32 1])) = .ok en ∧
        (Engine.memory.selects qn tagged ↔ ¬ Engine.memory.selects qc tagged) ∧
        (Engine.memory.isTrue en tagged ↔ ¬ Engine.memory.isTrue ec tagged) ∧
        (Engine.memory.selects qc tagged ↔ Engine.memory.isTrue ec tagged) ∧
        (Engine.memory.selects qn tagged ↔ Engine.memory.isTrue en tagged) := by
  have hf : (FieldPath.name "tags").resolve {} = .ok "tags" := by rfl
  have hitems : ∀ v ∈ [Bson.int32 1], v.literal = v := by simp [Bson.literal]
  have hd : Engine.memory.value tagged "tags" = some (.array [.int32 1, .int32 2]) := by rfl
  have hwithin : Engine.memory.Within [.int32 1] [.int32 1, .int32 2] := by
    simp [Engine.Within, Engine.memory]
  rcases contains_notContains_iff Engine.memory_laws hf hitems hd with
    ⟨qc, qn, ec, en, hqc, hqn, hec, hen, hquery, hexpression, hcontains, hnotContains⟩
  refine ⟨qc, qn, ec, en, hqc, hqn, hec, hen, ?_, hexpression, ?_, ?_⟩
  . rw [hquery]
    exact .inl hwithin
  . rw [hcontains]
    simp
  . rw [hnotContains]
    exact ⟨by simp, .inl hwithin⟩

theorem not_selects_partly_tagged
    : ∃ qc qn : Document,
        query {} (.field (.name "tags") .contains (.array [.int32 1, .int32 2])) = .ok qc ∧
        query {} (.field (.name "tags") .notContains (.array [.int32 1, .int32 2])) = .ok qn ∧
        ¬ (Engine.memory.selects qn [("tags", .array [.int32 1])] ↔
          ¬ Engine.memory.selects qc [("tags", .array [.int32 1])]) := by
  have hf : (FieldPath.name "tags").resolve {} = .ok "tags" := by rfl
  have hd : Engine.memory.value [("tags", .array [.int32 1])] "tags" =
      some (.array [.int32 1]) := by rfl
  refine ⟨_, _, query_contains_array hf, query_notContains_array hf, ?_⟩
  rw [Engine.memory_laws.all_iff _ _ _ _ hd, Engine.memory_laws.nin_iff _ _ _ _ hd]
  simp [Engine.Within, Engine.Apart, Engine.memory]

end Criteria

end Aggregation
