import Aggregation.Proofs.Criteria.Basic

/-!
This module contains what the form for queries and the form for expressions have in common. Both
write the parts of criteria on their own, in lists behind the keys of connectives.
-/

namespace Aggregation

/--
What a key stands for in front of a list of conditions, given their truth values. It is `none` if
the key is not a connective.
-/
abbrev Connectives := String → List Bool → Option Bool

namespace Connectives

def query : Connectives
  | "$and", bs => some (bs.all id)
  | "$or", bs => some (bs.any id)
  | "$nor", bs => some (!bs.any id)
  | _, _ => none

def expression : Connectives
  | "$and", bs => some (bs.all id)
  | "$or", bs => some (bs.any id)
  | "$not", [b] => some (!b)
  | _, _ => none

end Connectives

namespace Criteria

structure Form where
  write : Criteria → Except Error Document
  negationKey : String
  connectives : Connectives
  write_all : ∀ parts, write (.all parts) = do
    nonEmpty .and parts
    return .single "$and" (.array ((← parts.mapM write).map .document))
  write_any : ∀ parts, write (.any parts) = do
    nonEmpty .or parts
    return .single "$or" (.array ((← parts.mapM write).map .document))
  write_negation : ∀ part, write (.negation part) = do
    return .single negationKey (.array [.document (← write part)])
  connectives_and : ∀ bs, connectives "$and" bs = some (bs.all id)
  connectives_or : ∀ bs, connectives "$or" bs = some (bs.any id)
  connectives_negation : ∀ b, connectives negationKey [b] = some (!b)

namespace Form

def query (ctx : Context) : Form where
  write := Criteria.query ctx
  negationKey := "$nor"
  connectives := .query
  write_all := by simp [Criteria.query, queries_eq_mapM]
  write_any := by simp [Criteria.query, queries_eq_mapM]
  write_negation := by simp [Criteria.query]
  connectives_and := by simp [Connectives.query]
  connectives_or := by simp [Connectives.query]
  connectives_negation := by simp [Connectives.query]

def expression (ctx : Context) : Form where
  write := Criteria.expression ctx
  negationKey := "$not"
  connectives := .expression
  write_all := by simp [Criteria.expression, expressions_eq_mapM]
  write_any := by simp [Criteria.expression, expressions_eq_mapM]
  write_negation := by simp [Criteria.expression]
  connectives_and := by simp [Connectives.expression]
  connectives_or := by simp [Connectives.expression]
  connectives_negation := by simp [Connectives.expression]

/--
Induction over the criteria that can be written, together with what they are written as.
-/
theorem induction {F : Form} {motive : Criteria → Document → Prop}
    (all : ∀ parts ds, List.Forall₂ motive parts ds →
      motive (.all parts) (.single "$and" (.array (ds.map .document))))
    (any : ∀ parts ds, List.Forall₂ motive parts ds →
      motive (.any parts) (.single "$or" (.array (ds.map .document))))
    (negation : ∀ part d, motive part d →
      motive (.negation part) (.single F.negationKey (.array [.document d])))
    (leaf : ∀ l d, F.write (Leaf.toCriteria l) = .ok d → motive l.toCriteria d)
    {c : Criteria} {d : Document} (h : F.write c = .ok d) : motive c d := by
  -- Two lists of criteria follow the same rule, whatever connective they stand behind.
  have lift {parts ds} (ih : ∀ c ∈ parts, ∀ {d}, F.write c = .ok d → motive c d)
      (hds : parts.mapM F.write = .ok ds) : List.Forall₂ motive parts ds := by
    rw [Except.mapM_eq_ok] at hds
    have hboth := (List.forall₂_and_left parts ds).mpr ⟨ih, hds⟩
    apply hboth.imp
    intro c d h
    exact h.left h.right
  induction c generalizing d with
  | all parts ih =>
    rw [F.write_all] at h
    simp only [Except.bind_eq_ok, Except.pure_eq_ok] at h
    rcases h with ⟨_, _, ds, hds, rfl⟩
    apply all
    exact lift ih hds
  | any parts ih =>
    rw [F.write_any] at h
    simp only [Except.bind_eq_ok, Except.pure_eq_ok] at h
    rcases h with ⟨_, _, ds, hds, rfl⟩
    apply any
    exact lift ih hds
  | negation part ih =>
    rw [F.write_negation] at h
    simp only [Except.bind_eq_ok, Except.pure_eq_ok] at h
    rcases h with ⟨e, he, rfl⟩
    apply negation
    exact ih he
  | presence f expected => exact leaf (.presence f expected) d h
  | field f operator value => exact leaf (.field f operator value) d h

theorem exists_write_leaf {F : Form} {c : Criteria} {d : Document} (h : F.write c = .ok d)
    : ∀ l ∈ c.leaves, ∃ e, F.write l.toCriteria = .ok e := by
  have ofParts {parts : List Criteria} {ds : List Document}
      (h : List.Forall₂ (fun c _ => ∀ l ∈ c.leaves, ∃ e, F.write l.toCriteria = .ok e) parts ds)
      : ∀ l ∈ leavesOfAll parts, ∃ e, F.write l.toCriteria = .ok e := by
    intro l hl
    rw [mem_leavesOfAll] at hl
    rcases hl with ⟨c, hc, hl⟩
    have hand := h.imp fun _ _ h => And.intro h True.intro
    rw [List.forall₂_and_left] at hand
    exact hand.left c hc l hl
  apply Form.induction (motive := fun c _ => ∀ l ∈ c.leaves, ∃ e, F.write l.toCriteria = .ok e)
    (h := h)
  . intro parts ds ih
    exact ofParts ih
  . intro parts ds ih
    exact ofParts ih
  . intro part d ih
    exact ih
  . intro l d h l' hl'
    rw [leaves_toCriteria, List.mem_singleton] at hl'
    rw [hl']
    exact ⟨d, h⟩

end Form

end Criteria

end Aggregation
