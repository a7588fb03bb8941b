import Aggregation.Proofs.Criteria.Form
import Aggregation.Proofs.Criteria.Negation

/-!
This module contains the references in the form of criteria for expressions. They are those to the
fields of the criteria, up to the pattern of an empty suffix, which looks like one.
-/

namespace Aggregation

namespace Bson

mutual

/--
The strings in an expression that are read as references. Neither keys nor constants are read.
-/
def references : Bson → List String
  | .string s => if s.toList.head? = some '$' then [s] else []
  | .array items => referencesOfItems items
  | .document entries => referencesOfEntries entries
  | _ => []

def referencesOfItems : List Bson → List String
  | [] => []
  | v :: vs => v.references ++ referencesOfItems vs

def referencesOfEntries : List (String × Bson) → List String
  | [] => []
  | (key, v) :: entries =>
    (if key = "$literal" then [] else v.references) ++ referencesOfEntries entries

end

@[simp]
theorem referencesOfItems_eq_flatMap (vs : List Bson)
    : referencesOfItems vs = vs.flatMap references := by
  induction vs with
  | nil => simp [referencesOfItems]
  | cons v vs ih => simp [referencesOfItems, ih]

theorem references_single {key : String} (h : key ≠ "$literal") (v : Bson)
    : references (.document (Document.single key v)) = v.references := by
  unfold Document.single
  simp [references, referencesOfEntries, h]

theorem references_single_literal (v : Bson) : references (single "$literal" v) = [] := by
  unfold single Document.single
  simp [references, referencesOfEntries]

mutual

@[simp]
theorem references_literal (v : Bson) : v.literal.references = [] := by
  cases v with
  | string s =>
    rw [literal]
    split
    . apply references_single_literal
    next h => simp [references, h]
  | document d =>
    rw [literal]
    apply references_single_literal
  | array items =>
    rw [literal, references]
    exact referencesOfItems_literals items
  | _ => simp [literal, references]

theorem referencesOfItems_literals (vs : List Bson) : referencesOfItems (literals vs) = [] := by
  cases vs with
  | nil => simp [literals]
  | cons v vs =>
    rw [literals, referencesOfItems]
    rw [references_literal v, referencesOfItems_literals vs]
    simp

end

theorem references_array_literals (vs : List Bson) : references (.array (literals vs)) = [] := by
  rw [references]
  exact referencesOfItems_literals vs

theorem references_marked (path : String)
    : references (.string (FieldPath.marked path)) = [FieldPath.marked path] := by
  rw [references, if_pos (FieldPath.head?_marked path)]

theorem references_reference {ctx : Context} {f : FieldPath} {reference : String}
    (h : f.reference ctx = .ok reference) : references (.string reference) = [reference] := by
  unfold FieldPath.reference at h
  simp only [Except.bind_eq_ok, Except.pure_eq_ok] at h
  rcases h with ⟨path, _, rfl⟩
  apply references_marked

theorem references_patternOfStart (s : String)
    : references (.string (Text.patternOfStart s)) = [] := by
  simp [Text.patternOfStart, references]

theorem references_patternOfPart (s : String)
    : references (.string (Text.patternOfPart s)) = [] := by
  simp [Text.patternOfPart, references]

theorem references_patternOfEnd (s : String)
    : references (.string (Text.patternOfEnd s)) = if s = "" then ["$"] else [] := by
  unfold Text.patternOfEnd
  cases hs : s.toList with
  | nil =>
    rw [String.toList_eq_nil_iff] at hs
    simp [hs, Text.literally, references]
  | cons c cs =>
    have hne : s ≠ "" := by
      intro h
      simp [h] at hs
    -- Metacharacters are escaped, so only the end of the pattern is a bare `$`.
    have hhead : (String.ofList (Text.literally (c :: cs) ++ ['$'])).toList.head? ≠ some '$' := by
      rw [String.toList_ofList, Text.literally, List.flatMap_cons]
      split
      . simp
      next h =>
        intro hc
        simp only [List.cons_append, List.head?_cons, Option.some.injEq] at hc
        rw [hc] at h
        exact h (by rfl)
    rw [references, if_neg hhead, if_neg hne]

end Bson

namespace Criteria

theorem references_binary {operator : String} (h : operator ≠ "$literal") (a b : Bson)
    : Bson.references (.document (binary operator a b)) = a.references ++ b.references := by
  rw [binary, Bson.references_single h]
  simp [Bson.references]

theorem references_regexMatch (reference pattern : String)
    : Bson.references (.document (regexMatch reference pattern)) =
        Bson.references (.string reference) ++ Bson.references (.string pattern) := by
  rw [regexMatch, Bson.references_single (by simp)]
  simp [Bson.references, Bson.referencesOfEntries]

theorem references_containment {reference : String} {value : Bson} {d : Document}
    (h : containment reference value = .ok d)
    : Bson.references (.document d) = Bson.references (.string reference) := by
  unfold containment at h
  split at h
  . rw [Except.pure_eq_ok] at h
    rw [← h, references_regexMatch, Bson.references_patternOfPart, List.append_nil]
  . rw [Except.pure_eq_ok] at h
    rw [← h, references_binary (by simp), Bson.references_array_literals, List.nil_append]
  . simp at h

theorem references_membership (reference : String) (value : Bson)
    : Bson.references (.document (membership reference value)) =
        Bson.references (.string reference) := by
  rw [membership, references_binary (by simp), Bson.references_array_literals, List.append_nil]

theorem references_negated (d : Document)
    : Bson.references (.document (Document.single "$not" (.array [.document d]))) =
        Bson.references (.document d) := by
  rw [Bson.references_single (by simp)]
  simp [Bson.references]

def isEmptySuffix : FieldOperator → Bson → Bool
  | .endsWith, .string s => s = ""
  | _, _ => false

theorem references_test {ctx : Context} {f : FieldPath} {reference : String}
    {operator : FieldOperator} {value : Bson} {d : Document} (hf : f.reference ctx = .ok reference)
    (h : test ctx reference operator value = .ok d)
    : Bson.references (.document d) = Bson.references (.string reference) ++
        if isEmptySuffix operator value then ["$"] else [] := by
  cases operator
  case eq | ne | gt | gte | lt | lte =>
    rw [test, Except.pure_eq_ok] at h
    rw [← h, references_binary (by simp), Bson.references_literal]
    simp [isEmptySuffix]
  case contains =>
    rw [test] at h
    rw [references_containment h]
    simp [isEmptySuffix]
  case notContains =>
    rw [test_notContains hf, Except.map_eq_ok] at h
    rcases h with ⟨e, he, rfl⟩
    rw [negated, references_negated, references_containment he]
    simp [isEmptySuffix]
  case startsWith =>
    cases value
    case string s =>
      rw [test, Except.pure_eq_ok] at h
      rw [← h, references_regexMatch, Bson.references_patternOfStart]
      simp [isEmptySuffix]
    all_goals simp [test] at h
  case endsWith =>
    cases value
    case string s =>
      rw [test, Except.pure_eq_ok] at h
      rw [← h, references_regexMatch, Bson.references_patternOfEnd]
      simp [isEmptySuffix]
    all_goals simp [test] at h
  case anyOf =>
    rw [test, Except.pure_eq_ok] at h
    rw [← h, references_membership]
    simp [isEmptySuffix]
  case noneOf =>
    rw [test, Except.pure_eq_ok] at h
    rw [← h, references_negated, references_membership]
    simp [isEmptySuffix]

namespace Leaf

def isEmptySuffix : Leaf → Bool
  | .presence _ _ => false
  | .field _ operator value => Criteria.isEmptySuffix operator value

def Shows (ctx : Context) (l : Leaf) (s : String) : Prop :=
  l.path.reference ctx = .ok s ∨ (l.isEmptySuffix = true ∧ s = "$")

theorem shows_iff {ctx : Context} {l : Leaf} {reference s : String}
    (h : l.path.reference ctx = .ok reference)
    : l.Shows ctx s ↔ s = reference ∨ (l.isEmptySuffix = true ∧ s = "$") := by
  rw [Shows, h, Except.ok.injEq, eq_comm]

theorem mem_references_iff_shows {ctx : Context} {l : Leaf} {d : Document}
    (h : l.toCriteria.expression ctx = .ok d) (s : String)
    : s ∈ Bson.references (.document d) ↔ l.Shows ctx s := by
  cases l with
  | presence f expected =>
    simp only [toCriteria, expression, Except.bind_eq_ok, Except.pure_eq_ok] at h
    rcases h with ⟨reference, hf, rfl⟩
    rw [shows_iff hf]
    rw [references_binary (by split <;> simp), Bson.single, Bson.references_single (by simp)]
    rw [Bson.references_reference hf]
    simp [isEmptySuffix, Bson.references]
  | field f operator value =>
    simp only [toCriteria, expression, Except.bind_eq_ok] at h
    rcases h with ⟨reference, hf, h⟩
    rw [shows_iff hf]
    rw [references_test hf h, Bson.references_reference hf]
    rw [isEmptySuffix, List.mem_append, List.mem_singleton]
    cases Criteria.isEmptySuffix operator value <;> simp

end Leaf

def Refers (ctx : Context) (c : Criteria) (s : String) : Prop :=
  ∃ l ∈ c.leaves, l.path.reference ctx = .ok s

def HasEmptySuffix (c : Criteria) : Prop :=
  ∃ l ∈ c.leaves, l.isEmptySuffix = true

theorem exists_shows_iff {ctx : Context} {c : Criteria} {s : String}
    : (∃ l ∈ c.leaves, l.Shows ctx s) ↔ c.Refers ctx s ∨ (c.HasEmptySuffix ∧ s = "$") := by
  simp only [Leaf.Shows, Refers, HasEmptySuffix]
  grind

theorem mem_references_iff_exists_shows {ctx : Context} {c : Criteria} {d : Document}
    (h : c.expression ctx = .ok d) (s : String)
    : s ∈ Bson.references (.document d) ↔ ∃ l ∈ c.leaves, l.Shows ctx s := by
  have parts {cs : List Criteria} {ds : List Document}
      (ih : List.Forall₂ (fun c d => s ∈ Bson.references (.document d) ↔
        ∃ l ∈ c.leaves, l.Shows ctx s) cs ds)
      : s ∈ Bson.references (.array (ds.map .document)) ↔
          ∃ l ∈ leavesOfAll cs, l.Shows ctx s := by
    rw [Bson.references]
    induction ih with
    | nil => simp [leavesOfAll]
    | cons hhead _ htail =>
      rw [List.map_cons, Bson.referencesOfItems, List.mem_append]
      rw [hhead, htail]
      simp only [leavesOfAll, List.mem_append]
      grind
  apply Form.induction (F := .expression ctx) (h := h)
    (motive := fun c d => s ∈ Bson.references (.document d) ↔ ∃ l ∈ c.leaves, l.Shows ctx s)
  . intro cs ds ih
    rw [Bson.references_single (by simp)]
    exact parts ih
  . intro cs ds ih
    rw [Bson.references_single (by simp)]
    exact parts ih
  . intro c d ih
    have hkey : (Form.expression ctx).negationKey = "$not" := by rfl
    rw [hkey, references_negated, leaves]
    exact ih
  . intro l d h
    rw [Leaf.mem_references_iff_shows h]
    simp

theorem mem_references_iff {ctx : Context} {c : Criteria} {d : Document}
    (h : c.expression ctx = .ok d) (s : String)
    : s ∈ Bson.references (.document d) ↔ c.Refers ctx s ∨ (c.HasEmptySuffix ∧ s = "$") := by
  rw [mem_references_iff_exists_shows h, exists_shows_iff]

/--
All that is read as a reference comes from the fields of the criteria, unless there is an empty
suffix and no field that is referred to as `$`.
-/
theorem references_refer_iff {ctx : Context} {c : Criteria} {d : Document}
    (h : c.expression ctx = .ok d)
    : (∀ s ∈ Bson.references (.document d), c.Refers ctx s) ↔
        (c.HasEmptySuffix → c.Refers ctx "$") := by
  constructor
  . intro hall hsuffix
    apply hall
    rw [mem_references_iff h]
    exact .inr ⟨hsuffix, rfl⟩
  . intro hsuffix s hs
    rw [mem_references_iff h] at hs
    cases hs with
    | inl hs => exact hs
    | inr hs =>
      rw [hs.right]
      exact hsuffix hs.left

def dollars : Criteria :=
  .any [
    .field (.name "owner") .eq (.string "$admin"),
    .negation (.field (.name "tags") .contains (.array [.string "$tags", .int32 1])),
    .field (.name "name") .endsWith (.string "$")]

def dollarsExpression : Document :=
  .single "$or" (.array [
    .single "$eq" (.array [.string "$owner", .single "$literal" (.string "$admin")]),
    .single "$not" (.array [.single "$setIsSubset" (.array [
      .array [.single "$literal" (.string "$tags"), .int32 1], .string "$tags"])]),
    .document (regexMatch "$name" "\\$$")])

theorem references_refer_dollars
    : dollars.expression {} = .ok dollarsExpression ∧
        ∀ s ∈ Bson.references (.document dollarsExpression), dollars.Refers {} s := by
  have h : dollars.expression {} = .ok dollarsExpression := by rfl
  have hsuffix : ¬ dollars.HasEmptySuffix := by
    simp [HasEmptySuffix, dollars, leaves, Leaf.isEmptySuffix, isEmptySuffix]
  exact ⟨h, (references_refer_iff h).mpr fun hsuffix' => absurd hsuffix' hsuffix⟩

theorem empty_suffix_not_refers
    : ∃ d, expression {} (.field (.name "name") .endsWith (.string "")) = .ok d ∧
        "$" ∈ Bson.references (.document d) ∧
        ¬ Refers {} (.field (.name "name") .endsWith (.string "")) "$" := by
  refine ⟨regexMatch "$name" "$", by rfl, ?_, ?_⟩
  . rw [references_regexMatch]
    simp [Bson.references]
  . simp [Refers, leaves, Leaf.path, FieldPath.reference, FieldPath.resolve, FieldPath.marked]

end Criteria

end Aggregation
