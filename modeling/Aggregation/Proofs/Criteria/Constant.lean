import Aggregation.Proofs.Criteria.Negation
import Aggregation.Proofs.Expression.Constant

/-!
This module contains how the values of criteria are read in the form for expressions. Each is read
as the constant that it is, and no more of it is marked than has to be.
-/

namespace Aggregation

open Interpretation (marks)

namespace Bson

mutual

/--
What is left of a value when its arrays are taken apart. Documents stay whole.
-/
def atoms : Bson → List Bson
  | .array items => atomsOfItems items
  | v => [v]

def atomsOfItems : List Bson → List Bson
  | [] => []
  | v :: vs => v.atoms ++ atomsOfItems vs

end

/--
Whether an expression takes the value for a reference, a call or an object.
-/
def interpreted : Bson → Bool
  | .string s => marks s
  | .document _ => true
  | _ => false

mutual

theorem read_literal (i : Interpretation) (v : Bson) : i.read v.literal = v := by
  cases v with
  | string s =>
    rw [literal]
    split
    . apply denotes_single_literal
    . next h => simp [Interpretation.read, marks, h]
  | document d =>
    rw [literal]
    apply denotes_single_literal
  | array items => rw [literal, Interpretation.read, readAll_literals i items]
  | _ => rfl

theorem readAll_literals (i : Interpretation) (vs : List Bson) : i.readAll (literals vs) = vs := by
  cases vs with
  | nil => rfl
  | cons v vs => rw [literals, Interpretation.readAll, read_literal i v, readAll_literals i vs]

end

theorem denotes_literal (v : Bson) : v.literal.Denotes v := by
  intro i
  apply read_literal

-- A document that looks marked is marked like any other, and nothing in it is.
example : literal (.array [.string "$a", .array [.document [("$literal", .string "$b")]]]) =
    .array [single "$literal" (.string "$a"),
      .array [single "$literal" (.document [("$literal", .string "$b")])]] := by
  rfl

mutual

theorem literal_eq_self_iff {v : Bson} : v.literal = v ↔ ∀ a ∈ v.atoms, a.interpreted = false := by
  cases v with
  | string s =>
    simp only [atoms, List.forall_mem_singleton, interpreted, marks]
    rw [literal]
    split
    . next h => simp [h, single]
    . next h => simp [h]
  | document d =>
    simp only [atoms, List.forall_mem_singleton, interpreted]
    rw [literal]
    simp [(ne_single "$literal" (.document d)).symm]
  | array items =>
    rw [literal, atoms, array.injEq]
    exact literals_eq_self_iff
  | _ => simp [literal, atoms, interpreted]

theorem literals_eq_self_iff {vs : List Bson}
    : literals vs = vs ↔ ∀ a ∈ atomsOfItems vs, a.interpreted = false := by
  cases vs with
  | nil => simp [literals, atomsOfItems]
  | cons v vs =>
    rw [literals, atomsOfItems, List.cons.injEq, List.forall_mem_append]
    rw [literal_eq_self_iff, literals_eq_self_iff]

end

/--
An array is a list already, any other value is the only item of one.
-/
def asList : Bson → Bson
  | .array items => .array items
  | v => .array [v]

theorem array_choices (v : Bson) : .array v.choices = v.asList := by
  cases v <;> rfl

theorem atoms_asList (v : Bson) : v.asList.atoms = v.atoms := by
  cases v <;> simp [asList, atoms, atomsOfItems]

end Bson

namespace Criteria

theorem membership_eq (reference : String) (value : Bson)
    : membership reference value =
        .single "$in" (.array [.string reference, value.asList.literal]) := by
  rw [membership, binary, ← Bson.array_choices, Bson.literal]

theorem expression_anyOf (ctx : Context) (f : FieldPath) (value : Bson)
    : expression ctx (.field f .anyOf value) = (do
        return .single "$in" (.array [.string (← f.reference ctx), value.asList.literal])) := by
  simp only [expression, test, membership_eq]

/--
What is written for a value is read as that value, and it is the value itself if and only if nothing
in its arrays is interpreted. The choices of a membership test are written as a list in this way.
-/
theorem literal_denotes_value (v : Bson)
    : v.literal.Denotes v ∧
        (v.literal = v ↔ ∀ a ∈ v.atoms, a.interpreted = false) ∧
        (∀ ctx f,
          expression ctx (.field f .anyOf v) = (do
            return .single "$in" (.array [.string (← f.reference ctx), v.asList.literal])) ∧
          expression ctx (.field f .noneOf v) = (do
            return .single "$not" (.array [
              .single "$in" (.array [.string (← f.reference ctx), v.asList.literal])]))) ∧
        v.asList.literal.Denotes v.asList ∧
        (v.asList.literal = v.asList ↔ ∀ a ∈ v.atoms, a.interpreted = false) := by
  refine ⟨?_, ?_, ?_, ?_, ?_⟩
  . apply Bson.denotes_literal
  . apply Bson.literal_eq_self_iff
  . intro ctx f
    constructor
    . apply expression_anyOf
    . rw [expression_noneOf, expression_anyOf, map_bind]
      rfl
  . apply Bson.denotes_literal
  . rw [Bson.literal_eq_self_iff, Bson.atoms_asList]

end Criteria

end Aggregation
