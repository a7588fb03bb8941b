import Aggregation.Expression.Resolve
import Aggregation.Proofs.Criteria.Form
import Aggregation.Proofs.Criteria.Negation
import Aggregation.Proofs.Document
import Aggregation.Stage.Unwind

/-!
This module contains the strings that fields are written as where a reference is expected: as an
operand, as the path of an array to unwind, and in the tests of criteria in their form for
expressions.
-/

namespace Aggregation

variable {ctx : Context}

/--
The number of sigils that the text begins with.
-/
def sigils (text : String) : Nat :=
  (text.toList.takeWhile (· == '$')).length

namespace FieldPath

theorem sigils_marked (path : String) : sigils (marked path) = max 1 (sigils path) := by
  unfold marked
  split
  . next h =>
    have hpos : 1 ≤ sigils path := by
      rcases List.head?_eq_some_iff.mp h with ⟨cs, hcs⟩
      rw [sigils, hcs, List.takeWhile_cons_of_pos (by decide), List.length_cons]
      omega
    omega
  . next h =>
    rw [sigils, sigils, toList_sigil_append, List.takeWhile_cons_of_pos (by decide)]
    rw [takeWhile_sigil h]
    rfl

/--
The path of a property does not begin with a sigil. A name may.
-/
def Plain (ctx : Context) : FieldPath → Prop
  | .name _ => True
  | .property p => ∀ path, ctx.resolveProperty p = .ok path → path.toList.head? ≠ some '$'

theorem marked_eq_append_iff {path : String}
    : marked path = "$" ++ path ↔ path.toList.head? ≠ some '$' := by
  unfold marked
  split
  . next h =>
    have hne : path ≠ "$" ++ path := by
      intro heq
      have hlength := congrArg String.length heq
      rw [String.length_append] at hlength
      have hone : "$".length = 1 := by rfl
      omega
    simp [h, hne]
  . next h => simp [h]

theorem resolve_ofPath_iff {f : FieldPath}
    : (Operand.ofPath f).resolve ctx = Bson.string <$> f.reference ctx ↔ f.Plain ctx := by
  cases f with
  | name path =>
    rw [Operand.ofPath, Operand.resolve]
    simp [Plain]
  | property p =>
    -- The operand adds a sigil in any case, the reference only if there is none.
    have hresolve : (Operand.ofPath (.property p)).resolve ctx =
        (do return .string ("$" ++ (← ctx.resolveProperty p))) := by
      rfl
    rw [hresolve, reference, resolve, Plain]
    cases ctx.resolveProperty p with
    | error e => simp [Functor.map, Except.map, bind, Except.bind]
    | ok path =>
      simp only [Except.ok.injEq, forall_eq']
      rw [← marked_eq_append_iff, eq_comm]
      simp [Functor.map, Except.map, bind, Except.bind, pure, Except.pure]

theorem reference_eq_error {f : FieldPath} {e : Error}
    : f.reference ctx = .error e ↔ f.resolve ctx = .error e := by
  simp [reference]

theorem reference_eq_ok {f : FieldPath} {path : String} (h : f.resolve ctx = .ok path)
    : f.reference ctx = .ok (marked path) := by
  rw [reference, h]
  rfl

end FieldPath

namespace Criteria

def subject? : Bson → Option String
  | .string reference => some reference
  | .document [("$type", .string reference)] => some reference
  | _ => none

/--
The field that a test is about. A test of whether an array is contained names it last.
-/
def subjectOfTest? (operator : String) : Bson → Option String
  | .array (first :: rest) =>
    if operator = "$setIsSubset" then rest.head?.bind subject? else subject? first
  | .document d => (Document.get? d "input").bind subject?
  | _ => none

mutual

/--
The fields that are tested in the form of criteria for expressions, from left to right.
-/
def subjects : Bson → List String
  | .document [(key, .array items)] =>
    if key ∈ ["$and", "$or", "$not"] then
      subjectsOfAll items
    else
      (subjectOfTest? key (.array items)).toList
  | .document [(key, v)] => (subjectOfTest? key v).toList
  | _ => []

def subjectsOfAll : List Bson → List String
  | [] => []
  | v :: vs => subjects v ++ subjectsOfAll vs

end

theorem subjects_connective {key : String} (h : key ∈ ["$and", "$or", "$not"]) (items : List Bson)
    : subjects (.document (Document.single key (.array items))) = subjectsOfAll items := by
  rw [Document.single, subjects, if_pos h]

theorem subjects_test {key : String} (h : key ∉ ["$and", "$or", "$not"]) (v : Bson)
    : subjects (.document (Document.single key v)) = (subjectOfTest? key v).toList := by
  cases v
  case array items => rw [Document.single, subjects, if_neg h]
  all_goals simp [Document.single, subjects]

theorem subjects_not (d : Document)
    : subjects (.document (Document.single "$not" (.array [.document d]))) =
        subjects (.document d) := by
  rw [subjects_connective (by simp), subjectsOfAll, subjectsOfAll, List.append_nil]

theorem subjects_binary {operator : String} (h : operator ∉ ["$and", "$or", "$not", "$setIsSubset"])
    (a b : Bson) : subjects (.document (binary operator a b)) = (subject? a).toList := by
  simp only [List.mem_cons, not_or] at h
  rw [binary, subjects_test (by simp_all), subjectOfTest?, if_neg h.right.right.right.left]

theorem subjects_regexMatch (reference pattern : String)
    : subjects (.document (regexMatch reference pattern)) = [reference] := by
  rw [regexMatch, subjects_test (by simp), subjectOfTest?, Document.get?_cons, if_pos rfl]
  rfl

theorem subjects_containment {reference : String} {value : Bson} {d : Document}
    (h : containment reference value = .ok d) : subjects (.document d) = [reference] := by
  unfold containment at h
  split at h
  . rw [Except.pure_eq_ok] at h
    rw [← h, subjects_regexMatch]
  . rw [Except.pure_eq_ok] at h
    rw [← h, binary, subjects_test (by simp), subjectOfTest?, if_pos rfl]
    rfl
  . simp at h

theorem subjects_membership (reference : String) (value : Bson)
    : subjects (.document (membership reference value)) = [reference] := by
  rw [membership, subjects_binary (by simp)]
  rfl

theorem subjects_of_test {f : FieldPath} {reference : String} {operator : FieldOperator}
    {value : Bson} {d : Document} (hf : f.reference ctx = .ok reference)
    (h : test ctx reference operator value = .ok d)
    : subjects (.document d) = [reference] := by
  cases operator
  case eq | ne | gt | gte | lt | lte =>
    rw [test, Except.pure_eq_ok] at h
    rw [← h, subjects_binary (by simp)]
    rfl
  case contains =>
    rw [test] at h
    exact subjects_containment h
  case notContains =>
    rw [test_notContains hf, Except.map_eq_ok] at h
    rcases h with ⟨e, he, rfl⟩
    rw [negated, subjects_not, subjects_containment he]
  case startsWith | endsWith =>
    cases value
    case string s =>
      rw [test, Except.pure_eq_ok] at h
      rw [← h, subjects_regexMatch]
    all_goals simp [test] at h
  case anyOf =>
    rw [test, Except.pure_eq_ok] at h
    rw [← h, subjects_membership]
  case noneOf =>
    rw [test, Except.pure_eq_ok] at h
    rw [← h, subjects_not, subjects_membership]

theorem Leaf.subjects_of_expression {l : Leaf} {d : Document}
    (h : l.toCriteria.expression ctx = .ok d)
    : ∃ reference, l.path.reference ctx = .ok reference ∧
        subjects (.document d) = [reference] := by
  cases l with
  | presence f expected =>
    simp only [toCriteria, expression, Except.bind_eq_ok, Except.pure_eq_ok] at h
    rcases h with ⟨reference, hf, rfl⟩
    refine ⟨reference, hf, ?_⟩
    rw [subjects_binary (by split <;> simp)]
    rfl
  | field f operator value =>
    simp only [toCriteria, expression, Except.bind_eq_ok] at h
    rcases h with ⟨reference, hf, h⟩
    exact ⟨reference, hf, subjects_of_test hf h⟩

theorem Leaf.expression_eq_error {l : Leaf} {e : Error} (h : l.path.reference ctx = .error e)
    : l.toCriteria.expression ctx = .error e := by
  cases l with
  | presence f expected =>
    rw [path] at h
    rw [toCriteria, expression, h]
    rfl
  | field f operator value =>
    rw [path] at h
    rw [toCriteria, expression, h]
    rfl

theorem forall₂_subjects {c : Criteria} {d : Document} (h : c.expression ctx = .ok d)
    : List.Forall₂ (fun (l : Leaf) r => l.path.reference ctx = .ok r) c.leaves
        (subjects (.document d)) := by
  -- The parts behind a connective are read one after the other, as their leaves are listed.
  have parts {cs : List Criteria} {ds : List Document}
      (ih : List.Forall₂ (fun (c : Criteria) d =>
        List.Forall₂ (fun (l : Leaf) r => l.path.reference ctx = .ok r) c.leaves
          (subjects (.document d))) cs ds)
      : List.Forall₂ (fun (l : Leaf) r => l.path.reference ctx = .ok r) (leavesOfAll cs)
          (subjectsOfAll (ds.map .document)) := by
    induction ih with
    | nil => exact .nil
    | cons head _ ih =>
      rw [leavesOfAll, List.map_cons, subjectsOfAll]
      exact List.rel_append head ih
  apply Form.induction (F := Form.expression ctx)
    (motive := fun c d => List.Forall₂ (fun (l : Leaf) r => l.path.reference ctx = .ok r) c.leaves
      (subjects (.document d))) (h := h)
  . intro cs ds ih
    rw [leaves, subjects_connective (by simp)]
    exact parts ih
  . intro cs ds ih
    rw [leaves, subjects_connective (by simp)]
    exact parts ih
  . intro c d ih
    have hkey : (Form.expression ctx).negationKey = "$not" := by rfl
    rw [leaves, hkey, subjects_not]
    exact ih
  . intro l d h
    rcases l.subjects_of_expression h with ⟨r, hr, hsubjects⟩
    rw [leaves_toCriteria, hsubjects]
    exact .cons hr .nil

end Criteria

namespace Unwind

theorem path_of_body? {u : Unwind} {f : FieldPath} (hpath : u.path = some f) {d : Option Document}
    (h : u.body? ctx = .ok d)
    : ∃ reference body, f.reference ctx = .ok reference ∧ d = some body ∧
        body.get? "path" = some (.string reference) := by
  simp only [body?, hpath, Except.bind_eq_ok, Except.pure_eq_ok] at h
  rcases h with ⟨reference, hf, _, _, rfl⟩
  exact ⟨reference, _, hf, rfl, by simp⟩

theorem body?_eq_error {u : Unwind} {f : FieldPath} (hpath : u.path = some f) {e : Error}
    (h : f.reference ctx = .error e) : u.body? ctx = .error e := by
  simp [body?, hpath, h]

end Unwind

namespace FieldPath

open Criteria (Leaf subjects)

/--
The operand stands for the same string as the field does elsewhere, or fails with the same error.
-/
structure Alike (ctx : Context) (f : FieldPath) (o : Operand) : Prop where
  reference : o.resolve ctx = Bson.string <$> f.reference ctx
  unwind : ∀ u : Unwind, u.path = some f → ∀ d, u.body? ctx = .ok d →
    ∃ v body, o.resolve ctx = .ok v ∧ d = some body ∧ body.get? "path" = some v
  unwind_error : ∀ u : Unwind, u.path = some f → ∀ e, o.resolve ctx = .error e →
    u.body? ctx = .error e
  criteria : ∀ (c : Criteria) d, c.expression ctx = .ok d →
    List.Forall₂ (fun (l : Leaf) r => l.path = f → o.resolve ctx = .ok (.string r)) c.leaves
      (subjects (.document d))
  criteria_error : ∀ l : Leaf, l.path = f → ∀ e, o.resolve ctx = .error e →
    l.toCriteria.expression ctx = .error e

theorem alike_of_resolve_eq {f : FieldPath} {o : Operand}
    (h : o.resolve ctx = Bson.string <$> f.reference ctx) : Alike ctx f o := by
  refine ⟨h, ?_, ?_, ?_, ?_⟩
  . intro u hu d hd
    rcases Unwind.path_of_body? hu hd with ⟨reference, body, hf, hbody, hpath⟩
    refine ⟨.string reference, body, ?_, hbody, hpath⟩
    rw [h, hf]
    rfl
  . intro u hu e he
    rw [h, Except.map_eq_error] at he
    exact Unwind.body?_eq_error hu he
  . intro c d hd
    apply (Criteria.forall₂_subjects hd).imp
    intro l r hr hl
    rw [h, ← hl, hr]
    rfl
  . intro l hl e he
    rw [h, Except.map_eq_error, ← hl] at he
    exact Leaf.expression_eq_error he

/--
There is one sigil in front of the field, unless its path brings along more of them.
-/
theorem alike_ofPath {f : FieldPath} (h : f.Plain ctx)
    : Alike ctx f (.ofPath f) ∧
      (∀ e, f.reference ctx = .error e ↔ f.resolve ctx = .error e) ∧
      ∀ path, f.resolve ctx = .ok path →
        f.reference ctx = .ok (marked path) ∧ sigils (marked path) = max 1 (sigils path) := by
  refine ⟨alike_of_resolve_eq (resolve_ofPath_iff.mpr h), ?_, ?_⟩
  . intro e
    exact reference_eq_error
  . intro path hpath
    exact ⟨reference_eq_ok hpath, sigils_marked path⟩

def cost : FieldPath :=
  .property (.child (.named "item") { declared := "price", value := some "cost" })

theorem alike_ofPath_cost
    : cost.Plain {} ∧ Alike {} cost (.ofPath cost) ∧
        (Operand.ofPath cost).resolve {} = .ok (.string "$item.cost") := by
  have hplain : cost.Plain {} := by
    intro path hpath
    cases hpath
    decide
  exact ⟨hplain, (alike_ofPath hplain).left, by rfl⟩

/--
A name is taken as it is, also with two sigils, and an operand adds one to a property that has one.
-/
theorem sigils_brought_along
    : (name "$$price").reference {} = .ok (variableReference "price") ∧
        (Operand.ofPath (.name "$$price")).resolve {} = .ok (.string (variableReference "price")) ∧
        (property (.named "$price")).reference {} = .ok "$price" ∧
        (Operand.ofPath (.property (.named "$price"))).resolve {} =
          .ok (.string (variableReference "price")) := by
  refine ⟨?_, ?_, ?_, ?_⟩
  all_goals rfl

end FieldPath

end Aggregation
