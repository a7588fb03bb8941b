import Aggregation.Proofs.Criteria.Meaning

/-!
This module contains chains of criteria. They have the truth value that is read off the steps from
left to right, and they are flat on their left side only.
-/

namespace Aggregation

namespace Combinator

def combine : Combinator → List Criteria → Criteria
  | .and => .all
  | .or => .any

def step : Combinator → Criteria → Criteria.Step
  | .and => .and
  | .or => .or

end Combinator

namespace Criteria

variable {c d : Criteria} {ds parts : List Criteria} {k : Combinator}

/-- The truth value after the step, given the one before it. -/
def Step.value (leaf : Leaf → Bool) (b : Bool) : Step → Bool
  | .and d => b && d.holds leaf
  | .or d => b || d.holds leaf
  | .not => !b

theorem holds_and (leaf : Leaf → Bool) (c d : Criteria)
    : (c.and d).holds leaf = (c.holds leaf && d.holds leaf) := by
  unfold Criteria.and
  split
  . rw [holds, holds, allHold_eq_all, allHold_eq_all]
    simp
  . rw [holds, allHold_eq_all]
    simp

theorem holds_or (leaf : Leaf → Bool) (c d : Criteria)
    : (c.or d).holds leaf = (c.holds leaf || d.holds leaf) := by
  unfold Criteria.or
  split
  . rw [holds, holds, anyHolds_eq_any, anyHolds_eq_any]
    simp
  . rw [holds, anyHolds_eq_any]
    simp

theorem holds_apply (leaf : Leaf → Bool) (c : Criteria) (s : Step)
    : (c.apply s).holds leaf = s.value leaf (c.holds leaf) := by
  cases s with
  | and d => apply holds_and
  | or d => apply holds_or
  | not => rw [apply, Criteria.not, holds, Step.value]

theorem holds_chain (leaf : Leaf → Bool) (c : Criteria) (steps : List Step)
    : (c.chain steps).holds leaf = steps.foldl (Step.value leaf) (c.holds leaf) := by
  unfold chain
  induction steps generalizing c with
  | nil => rfl
  | cons s steps ih =>
    rw [List.foldl_cons, List.foldl_cons, ih]
    rw [holds_apply]

theorem chain_append (c : Criteria) (steps steps' : List Step)
    : c.chain (steps ++ steps') = (c.chain steps).chain steps' := by
  unfold chain
  apply List.foldl_append

theorem apply_step_combine (k : Combinator) (parts : List Criteria) (d : Criteria)
    : (k.combine parts).apply (k.step d) = k.combine (parts ++ [d]) := by
  cases k with
  | and => rfl
  | or => rfl

theorem apply_step_of_ne (h : ∀ parts, c ≠ k.combine parts)
    : c.apply (k.step d) = k.combine [c, d] := by
  cases k with
  | and =>
    rw [Combinator.step, apply, Criteria.and]
    . rfl
    . exact h
  | or =>
    rw [Combinator.step, apply, Criteria.or]
    . rfl
    . exact h

theorem chain_run_combine (k : Combinator) (parts ds : List Criteria)
    : (k.combine parts).chain (ds.map k.step) = k.combine (parts ++ ds) := by
  unfold chain
  induction ds generalizing parts with
  | nil => rw [List.map_nil, List.foldl_nil, List.append_nil]
  | cons d ds ih =>
    rw [List.map_cons, List.foldl_cons, apply_step_combine, ih]
    rw [List.append_assoc, List.singleton_append]

-- After the first step there is a list of the right kind, and the others go on with it.
theorem chain_run_of_ne (h : ∀ parts, c ≠ k.combine parts)
    : c.chain ((d :: ds).map k.step) = k.combine (c :: d :: ds) := by
  have hchain := chain_run_combine k [c, d] ds
  unfold chain at hchain ⊢
  rw [List.map_cons, List.foldl_cons, apply_step_of_ne h]
  exact hchain

/--
The steps make the truth value one after the other. A run of steps of one kind, wherever it stands,
adds what it brings along to the list that is there, if this is of the same kind, and otherwise
starts a list with all that is there. A step is a run of one.
-/
theorem chain_flat_on_left (c : Criteria) (steps : List Step)
    : (∀ leaf, (c.chain steps).holds leaf = steps.foldl (Step.value leaf) (c.holds leaf)) ∧
        c.chain (steps ++ [.not]) = .negation (c.chain steps) ∧
        ∀ (k : Combinator) d ds,
          (∀ parts, c.chain steps = k.combine parts →
            c.chain (steps ++ (d :: ds).map k.step) = k.combine (parts ++ d :: ds)) ∧
          ((∀ parts, c.chain steps ≠ k.combine parts) →
            c.chain (steps ++ (d :: ds).map k.step) = k.combine (c.chain steps :: d :: ds)) := by
  refine ⟨?_, ?_, ?_⟩
  . intro leaf
    apply holds_chain
  . rw [chain_append]
    rfl
  . intro k d ds
    rw [chain_append]
    constructor
    . intro parts h
      rw [h]
      apply chain_run_combine
    . intro h
      apply chain_run_of_ne h

def has (name : String) : Criteria :=
  .presence (.name name) true

/-- What is brought along stays as it is, also a list of the kind of the run. -/
theorem chain_flat_on_left_brought
    : chain (.any [has "bonus"]) [.or (has "fee")] = .any [has "bonus", has "fee"] ∧
        chain (.any [has "bonus"]) [.or (has "fee"), .or (.any [has "gift"])] =
          .any [has "bonus", has "fee", .any [has "gift"]] ∧
        (∀ parts, chain (.any [has "bonus"]) [.or (has "fee")] ≠ Combinator.and.combine parts) ∧
        chain (.any [has "bonus"]) [.or (has "fee"), .and (.all [has "tax"]), .and (has "sum")] =
          .all [.any [has "bonus", has "fee"], .all [has "tax"], has "sum"] := by
  have hany : chain (.any [has "bonus"]) [.or (has "fee")] = .any [has "bonus", has "fee"] := by
    rfl
  have hne : ∀ parts,
      chain (.any [has "bonus"]) [.or (has "fee")] ≠ Combinator.and.combine parts := by
    intro parts h
    rw [hany] at h
    cases h
  have hflat := (chain_flat_on_left (.any [has "bonus"]) [.or (has "fee")]).right.right
  refine ⟨hany, ?_, hne, ?_⟩
  . exact (hflat .or (.any [has "gift"]) []).left _ hany
  . exact (hflat .and (.all [has "tax"]) [has "sum"]).right hne

end Criteria

end Aggregation
