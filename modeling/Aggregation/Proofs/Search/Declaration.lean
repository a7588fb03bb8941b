import Aggregation.Proofs.Builder.Basic
import Aggregation.Search.Basic

/-!
This module contains search operators as they are declared, call by call, and what the calls leave
behind: the last call for each bound of a range, and the clauses of a compound sorted by their role.
-/

namespace Aggregation

namespace Search

namespace Compound

/--
The lists that a clause can go to.
-/
inductive Role where
  | must
  | mustNot
  | should
  | filter

def Role.name : Role → String
  | .must => "must"
  | .mustNot => "mustNot"
  | .should => "should"
  | .filter => "filter"

theorem Role.exists_iff {P : Role → Prop}
    : (∃ role, P role) ↔ P .must ∨ P .mustNot ∨ P .should ∨ P .filter := by
  constructor
  . intro ⟨role, h⟩
    cases role with
    | must => exact .inl h
    | mustNot => exact .inr (.inl h)
    | should => exact .inr (.inr (.inl h))
    | filter => exact .inr (.inr (.inr h))
  . rintro (h | h | h | h)
    . exact ⟨.must, h⟩
    . exact ⟨.mustNot, h⟩
    . exact ⟨.should, h⟩
    . exact ⟨.filter, h⟩

def list (c : Compound σ) : Role → List σ
  | .must => c.must
  | .mustNot => c.mustNot
  | .should => c.should
  | .filter => c.filter

namespace Clause

def operator? : Clause σ → Option σ
  | .must o | .mustNot o | .should o | .filter o => some o
  | .minimumShouldMatch _ => none

/-- The operator of the clause if it goes to the list for the role. -/
def ofRole? : Role → Clause σ → Option σ
  | .must, .must o => some o
  | .mustNot, .mustNot o => some o
  | .should, .should o => some o
  | .filter, .filter o => some o
  | _, _ => none

def minimum? : Clause σ → Option Int32
  | .minimumShouldMatch count => some count
  | _ => none

theorem operator?_eq_some_iff {c : Clause σ} {o : σ}
    : c.operator? = some o ↔ ∃ role, c.ofRole? role = some o := by
  constructor
  . intro h
    cases c with
    | must => exact ⟨.must, h⟩
    | mustNot => exact ⟨.mustNot, h⟩
    | should => exact ⟨.should, h⟩
    | filter => exact ⟨.filter, h⟩
    | minimumShouldMatch => cases h
  . intro ⟨role, h⟩
    unfold ofRole? at h
    split at h
    case h_5 => cases h
    all_goals exact h

end Clause

theorem forall_ofRole?_iff {clauses : List (Clause σ)} {P : σ → Prop}
    : (∀ role, ∀ o ∈ clauses.filterMap (Clause.ofRole? role), P o) ↔
        ∀ c ∈ clauses, ∀ o ∈ c.operator?, P o := by
  constructor
  . intro h c hc o ho
    rcases Clause.operator?_eq_some_iff.mp ho with ⟨role, ho⟩
    exact h role o (List.mem_filterMap.mpr ⟨c, hc, ho⟩)
  . intro h role o ho
    rcases List.mem_filterMap.mp ho with ⟨c, hc, ho⟩
    exact h c hc o (Clause.operator?_eq_some_iff.mpr ⟨role, ho⟩)

theorem list_ofClauses (clauses : List (Clause σ)) (role : Role)
    : (ofClauses clauses).list role = clauses.filterMap (Clause.ofRole? role) := by
  unfold ofClauses
  rw [List.filterMap_eq_flatMap_toList]
  rw [Builder.foldl_append (fun c : Compound σ => c.list role)
    fun clause => (Clause.ofRole? role clause).toList]
  . cases role <;> rfl
  . intro c clause
    cases clause <;> cases role <;> simp [declare, list, Clause.ofRole?]

theorem minimumShouldMatch_ofClauses (clauses : List (Clause σ))
    : (ofClauses clauses).minimumShouldMatch = (clauses.filterMap Clause.minimum?).getLast? := by
  unfold ofClauses
  rw [Builder.foldl_getLast? minimumShouldMatch Clause.minimum?]
  . apply Option.or_none
  . intro c clause
    cases clause <;> simp [declare, Clause.minimum?]

theorem isEmpty_eq_false_iff {c : Compound σ} : c.isEmpty = false ↔ ∃ role, c.list role ≠ [] := by
  rw [Role.exists_iff]
  simp only [isEmpty, Bool.and_eq_false_iff, List.isEmpty_eq_false_iff, or_assoc, list, ne_eq]

end Compound

namespace Range

/--
A call is kept unless a later one sets the same bound.
-/
def lastCalls : List (Bound × Bson) → List (Bound × Bson)
  | [] => []
  | (b, v) :: calls => if b ∈ calls.map Prod.fst then lastCalls calls else (b, v) :: lastCalls calls

theorem ofBounds_eq_lastCalls (path : FieldPath) (calls : List (Bound × Bson))
    : ofBounds path calls = ⟨path, lastCalls calls⟩ := by
  -- Of the bounds that are there before the calls, those stay that no call sets again.
  have hfold (r : Range) : calls.foldl (fun r b => r.set b.1 b.2) r =
      ⟨r.path, r.bounds.filter (fun b => b.1 ∉ calls.map Prod.fst) ++ lastCalls calls⟩ := by
    induction calls generalizing r with
    | nil => simp [lastCalls]
    | cons call calls ih =>
      rcases call with ⟨b, v⟩
      have hfilter : (r.bounds.filter (fun c => c.1 ≠ b)).filter
            (fun c => c.1 ∉ calls.map Prod.fst) =
          r.bounds.filter (fun c => c.1 ∉ ((b, v) :: calls).map Prod.fst) := by
        rw [List.filter_filter]
        apply List.filter_congr
        intro c _
        simp only [List.map_cons, List.mem_cons, not_or, Bool.decide_and, Bool.and_comm]
      rw [List.foldl_cons, ih, ← hfilter, set, List.filter_append, lastCalls]
      split
      . next h => simp [h]
      . next h => simp [h]
  rw [ofBounds, hfold, List.filter_nil, List.nil_append]

theorem mem_keys_lastCalls {b : Bound} {calls : List (Bound × Bson)}
    : b ∈ (lastCalls calls).map Prod.fst ↔ b ∈ calls.map Prod.fst := by
  induction calls with
  | nil => rw [lastCalls]
  | cons call calls ih =>
    rcases call with ⟨b', v⟩
    rw [lastCalls]
    split
    . next h =>
      rw [ih, List.map_cons, List.mem_cons]
      constructor
      . exact .inr
      . rintro (rfl | hb)
        . exact h
        . exact hb
    . rw [List.map_cons, List.map_cons, List.mem_cons, List.mem_cons, ih]

theorem nodup_keys_lastCalls (calls : List (Bound × Bson))
    : ((lastCalls calls).map Prod.fst).Nodup := by
  induction calls with
  | nil => simp [lastCalls]
  | cons call calls ih =>
    rcases call with ⟨b, v⟩
    rw [lastCalls]
    split
    . exact ih
    . next h =>
      rw [List.map_cons, List.nodup_cons, mem_keys_lastCalls]
      exact ⟨h, ih⟩

theorem lastCalls_sublist (calls : List (Bound × Bson)) : (lastCalls calls).Sublist calls := by
  induction calls with
  | nil => exact .slnil
  | cons call calls ih =>
    rw [lastCalls]
    split
    . exact ih.cons _
    . exact ih.cons_cons _

theorem lookup_eq_none_iff_notMem_keys {b : Bound} {calls : List (Bound × Bson)}
    : calls.lookup b = none ↔ b ∉ calls.map Prod.fst := by
  rw [List.lookup_eq_none_iff, List.mem_map]
  grind

theorem lookup_lastCalls (calls : List (Bound × Bson)) (b : Bound)
    : (lastCalls calls).lookup b = calls.reverse.lookup b := by
  induction calls with
  | nil => rfl
  | cons call calls ih =>
    rcases call with ⟨b', v⟩
    rw [lastCalls, List.reverse_cons, List.lookup_append, ← ih]
    by_cases hb : b = b'
    . subst hb
      split
      . next h =>
        rw [← mem_keys_lastCalls, ← not_not (a := b ∈ _), ← lookup_eq_none_iff_notMem_keys] at h
        rw [Option.or_of_isSome (Option.isSome_iff_ne_none.mpr h)]
      . next h =>
        rw [← mem_keys_lastCalls, ← lookup_eq_none_iff_notMem_keys] at h
        rw [h, List.lookup_cons_self, Option.none_or, List.lookup_cons_self]
    . have hother (l : List (Bound × Bson)) : ((b', v) :: l).lookup b = l.lookup b := by
        rw [List.lookup_cons, beq_false_of_ne hb]
      rw [hother, List.lookup_nil, Option.or_none]
      split
      . rfl
      . exact hother _

end Range

/--
An operator by the calls that declare it.
-/
inductive Declaration where
  | text (query : String) (path : FieldPath)
  | phrase (query : String) (path : FieldPath)
  | presence (path : FieldPath)
  | equals (path : FieldPath) (value : Bson)
  | range (path : FieldPath) (calls : List (Bound × Bson))
  | compound (clauses : List (Compound.Clause Declaration))

namespace Declaration

mutual

def toOperator : Declaration → Operator
  | .text query path => .text query path
  | .phrase query path => .phrase query path
  | .presence path => .presence path
  | .equals path value => .equals path value
  | .range path calls => .range (.ofBounds path calls)
  | .compound clauses => .compound (.ofClauses (toClauses clauses))

def toClauses : List (Compound.Clause Declaration) → List (Compound.Clause Operator)
  | [] => []
  | c :: cs => toClause c :: toClauses cs

def toClause : Compound.Clause Declaration → Compound.Clause Operator
  | .must d => .must d.toOperator
  | .mustNot d => .mustNot d.toOperator
  | .should d => .should d.toOperator
  | .filter d => .filter d.toOperator
  | .minimumShouldMatch count => .minimumShouldMatch count

end

/--
Induction in which the hypothesis about the clauses is one about the operator of each.
-/
@[elab_as_elim, induction_eliminator]
theorem induction {motive : Declaration → Prop}
    (text : ∀ query path, motive (.text query path))
    (phrase : ∀ query path, motive (.phrase query path))
    (presence : ∀ path, motive (.presence path))
    (equals : ∀ path value, motive (.equals path value))
    (range : ∀ path calls, motive (.range path calls))
    (compound : ∀ clauses, (∀ c ∈ clauses, ∀ d ∈ c.operator?, motive d) →
      motive (.compound clauses))
    (d : Declaration) : motive d := by
  apply @Declaration.rec motive (fun clauses => ∀ c ∈ clauses, ∀ d ∈ c.operator?, motive d)
    (fun c => ∀ d ∈ c.operator?, motive d)
  . exact text
  . exact phrase
  . exact presence
  . exact equals
  . exact range
  . exact compound
  . simp
  . simp_all
  all_goals simp [Compound.Clause.operator?]

def path? : Declaration → Option FieldPath
  | .text _ path => some path
  | .phrase _ path => some path
  | .presence path => some path
  | .equals path _ => some path
  | .range path _ => some path
  | .compound _ => none

/-- The declarations in a declaration, at any depth. -/
inductive Holds : Declaration → Declaration → Prop where
  | root : Holds d d
  | clause {clauses : List (Compound.Clause Declaration)} (hc : c ∈ clauses)
      (ho : o ∈ c.operator?) (h : Holds o d) : Holds (.compound clauses) d

theorem list_toOperator (clauses : List (Compound.Clause Declaration)) (role : Compound.Role)
    : (Compound.ofClauses (toClauses clauses)).list role =
        (clauses.filterMap (Compound.Clause.ofRole? role)).map toOperator := by
  rw [Compound.list_ofClauses]
  induction clauses with
  | nil => simp [toClauses]
  | cons c clauses ih =>
    rw [toClauses, List.filterMap_cons, List.filterMap_cons, ih]
    cases c <;> cases role <;> rfl

theorem minimum_toOperator (clauses : List (Compound.Clause Declaration))
    : (Compound.ofClauses (toClauses clauses)).minimumShouldMatch =
        (clauses.filterMap Compound.Clause.minimum?).getLast? := by
  rw [Compound.minimumShouldMatch_ofClauses]
  congr 1
  induction clauses with
  | nil => simp [toClauses]
  | cons c clauses ih =>
    rw [toClauses, List.filterMap_cons, List.filterMap_cons, ih]
    cases c <;> rfl

end Declaration

end Search

end Aggregation
