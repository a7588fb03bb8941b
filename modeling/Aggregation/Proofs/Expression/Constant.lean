import Aggregation.Proofs.Document

/-!
This module contains how an engine reads values as expressions, and the values that it reads as
constants.
-/

namespace Aggregation

/--
What an engine makes of references and operator calls, about which nothing is assumed.
-/
structure Interpretation where
  reference : String → Bson
  call : Document → Bson

namespace Interpretation

def marks (s : String) : Bool :=
  s.toList.head? = some '$'

def marked? : Document → Option Bson
  | [("$literal", v)] => some v
  | _ => none

theorem marked?_eq_some {d : Document} {v : Bson}
    : marked? d = some v ↔ d = .single "$literal" v := by
  unfold marked?
  split
  . simp [Document.single, eq_comm]
  . next h =>
    simp only [reduceCtorEq, false_iff]
    exact h v

mutual

/--
A document with an operator among its keys is a call, unless it marks a constant. Any other document
is an object of expressions.
-/
def read (i : Interpretation) : Bson → Bson
  | .string s => if marks s then i.reference s else .string s
  | .array vs => .array (i.readAll vs)
  | .document d =>
    match marked? d with
    | some v => v
    | none => if (Document.keys d).any marks then i.call d else .document (i.readEntries d)
  | v => v

def readAll (i : Interpretation) : List Bson → List Bson
  | [] => []
  | v :: vs => i.read v :: i.readAll vs

def readEntries (i : Interpretation) : List (String × Bson) → List (String × Bson)
  | [] => []
  | (k, v) :: d => (k, i.read v) :: i.readEntries d

end

end Interpretation

namespace Bson

open Interpretation (marks)

/-- The node is read as the value whatever references and calls stand for. -/
def Denotes (node v : Bson) : Prop :=
  ∀ i : Interpretation, i.read node = v

mutual

def plain : Bson → Bool
  | .string s => !marks s
  | .array vs => plainAll vs
  | .document d => plainEntries d
  | _ => true

def plainAll : List Bson → Bool
  | [] => true
  | v :: vs => v.plain && plainAll vs

def plainEntries : List (String × Bson) → Bool
  | [] => true
  | (k, v) :: d => !marks k && v.plain && plainEntries d

end

theorem keys_of_plainEntries {d : Document} (h : plainEntries d = true)
    : d.keys.any marks = false := by
  induction d with
  | nil => rfl
  | cons e d ih =>
    rcases e with ⟨k, v⟩
    simp only [plainEntries, Bool.and_eq_true, Bool.not_eq_true'] at h
    simp only [Document.keys] at ih ⊢
    simp [h.left.left, ih h.right]

theorem marked?_eq_none_of_keys {d : Document} (h : d.keys.any marks = false)
    : Interpretation.marked? d = none := by
  cases hd : Interpretation.marked? d with
  | none => rfl
  | some v =>
    rw [Interpretation.marked?_eq_some] at hd
    simp [hd, Document.single, Document.keys, marks] at h

mutual

theorem read_of_plain (i : Interpretation) {v : Bson} (h : v.plain = true) : i.read v = v := by
  cases v with
  | string s =>
    rw [plain, Bool.not_eq_true'] at h
    simp [Interpretation.read, h]
  | array vs =>
    rw [plain] at h
    rw [Interpretation.read, readAll_of_plainAll i h]
  | document d =>
    rw [plain] at h
    have hkeys := keys_of_plainEntries h
    rw [Interpretation.read, marked?_eq_none_of_keys hkeys, hkeys]
    simp [readEntries_of_plainEntries i h]
  | _ => rfl

theorem readAll_of_plainAll (i : Interpretation) {vs : List Bson} (h : plainAll vs = true)
    : i.readAll vs = vs := by
  cases vs with
  | nil => rfl
  | cons v vs =>
    rw [plainAll, Bool.and_eq_true] at h
    rw [Interpretation.readAll, read_of_plain i h.left, readAll_of_plainAll i h.right]

theorem readEntries_of_plainEntries (i : Interpretation) {d : List (String × Bson)}
    (h : plainEntries d = true) : i.readEntries d = d := by
  cases d with
  | nil => rfl
  | cons e d =>
    rcases e with ⟨k, v⟩
    simp only [plainEntries, Bool.and_eq_true] at h
    rw [Interpretation.readEntries, read_of_plain i h.left.right, readEntries_of_plainEntries i h.right]

end

def blank : Interpretation where
  reference _ := .null
  call _ := .null

mutual

theorem plain_of_read {v : Bson} (h : blank.read v = v) : v.plain = true := by
  cases v with
  | string s =>
    rw [Interpretation.read] at h
    split at h
    . cases h
    . next hs => simpa [plain] using hs
  | array vs =>
    rw [Interpretation.read, array.injEq] at h
    rw [plain, plainAll_of_readAll h]
  | document d =>
    rw [Interpretation.read] at h
    split at h
    . next v hv =>
      rw [Interpretation.marked?_eq_some] at hv
      rw [hv] at h
      exact absurd h (ne_single "$literal" v)
    . split at h
      . cases h
      . next hkeys =>
        rw [document.injEq] at h
        rw [plain]
        apply plainEntries_of_readEntries
        . simpa using hkeys
        . exact h
  | _ => rfl

theorem plainAll_of_readAll {vs : List Bson} (h : blank.readAll vs = vs) : plainAll vs = true := by
  cases vs with
  | nil => rfl
  | cons v vs =>
    rw [Interpretation.readAll, List.cons.injEq] at h
    rw [plainAll, plain_of_read h.left, plainAll_of_readAll h.right]
    rfl

theorem plainEntries_of_readEntries {d : List (String × Bson)}
    (hkeys : (Document.keys d).any marks = false) (h : blank.readEntries d = d)
    : plainEntries d = true := by
  cases d with
  | nil => rfl
  | cons e d =>
    rcases e with ⟨k, v⟩
    simp only [Document.keys, List.map_cons, List.any_cons, Bool.or_eq_false_iff] at hkeys
    simp only [Interpretation.readEntries, List.cons.injEq, Prod.mk.injEq, true_and] at h
    rw [plainEntries, hkeys.left, plain_of_read h.left]
    rw [plainEntries_of_readEntries hkeys.right h.right]
    rfl

end

theorem denotes_self_iff {v : Bson} : v.Denotes v ↔ v.plain = true := by
  constructor
  . intro h
    apply plain_of_read
    apply h
  . intro h i
    apply read_of_plain
    exact h

theorem denotes_single_literal (v : Bson) : (single "$literal" v).Denotes v := by
  intro i
  rfl

end Bson

end Aggregation
