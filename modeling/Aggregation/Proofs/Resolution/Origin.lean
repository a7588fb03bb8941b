import Aggregation.Proofs.Resolution.Fault
import Aggregation.Proofs.Stage.Basic

/-!
This module contains the stage from which the error of a build comes. It can be inside other stages,
and everything that is resolved before it is resolved without an error.
-/

namespace Aggregation

variable {ctx : Context} {e : Error}

namespace Stage

/--
The pipelines inside a stage that its resolution gets to.
-/
inductive Enters (ctx : Context) : Stage → Pipeline → Prop where
  | lookup {l : Lookup Stage} {p : Pipeline} (hp : l.pipeline = some p) (houtput : l.output ≠ none)
      (hlocal : ∃ name, l.localField.mapM (FieldPath.resolve ctx) = .ok name)
      (hforeign : ∃ name, l.foreignField.mapM (FieldPath.resolve ctx) = .ok name)
      (hbindings : ∃ es, Operand.resolveBindings ctx l.bindings = .ok es)
      : Enters ctx (.lookup l) p
  | unionWith {u : UnionWith Stage} {p : Pipeline} (hp : u.pipeline = some p)
      (hcollection : u.collection ≠ none) : Enters ctx (.unionWith u) p
  | facet {f : Facet Stage} {before after : List (String × Pipeline)} {name : String} {p : Pipeline}
      (hp : f.facets = before ++ (name, p) :: after)
      (hbefore : ∀ x ∈ before, ∃ ds, x.2.build ctx = .ok ds) : Enters ctx (.facet f) p

/--
The stage fails although the pipelines inside that it gets to are built.
-/
def Raises (ctx : Context) (e : Error) (s : Stage) : Prop :=
  s.resolve ctx = .error e ∧ ∀ p, s.Enters ctx p → ∃ ds, p.build ctx = .ok ds

end Stage

/--
The stage raises the error, and everything that is resolved before it is resolved without one.
-/
inductive Pipeline.Raised (ctx : Context) (e : Error) : Pipeline → Stage → Prop where
  | stage {p before after : Pipeline} {s : Stage} (hp : p = before ++ s :: after)
      (hbefore : ∀ t ∈ before, ∃ d, t.resolve ctx = .ok d) (hs : s.Raises ctx e) : Raised ctx e p s
  | inner {p q before after : Pipeline} {s t : Stage} (hp : p = before ++ t :: after)
      (hbefore : ∀ t ∈ before, ∃ d, t.resolve ctx = .ok d) (ht : t.Enters ctx q)
      (h : Raised ctx e q s) : Raised ctx e p s

namespace Stage

theorem Enters.mem_pipelines {s : Stage} {p : Pipeline} (h : s.Enters ctx p)
    : ∃ key, (key, p) ∈ s.pipelines := by
  cases h with
  | lookup hp | unionWith hp => exact ⟨"pipeline", by simp [pipelines, hp]⟩
  | @facet f before after name p hp => exact ⟨name, by simp [pipelines, hp]⟩

theorem build_eq_error {p : Pipeline}
    : p.build ctx = .error e ↔
        ∃ before s after, p = before ++ s :: after ∧ (∀ t ∈ before, ∃ d, t.resolve ctx = .ok d) ∧
          s.resolve ctx = .error e := by
  unfold Pipeline.build
  rw [resolveAll_eq_map, Except.map_eq_error, Except.mapM_eq_error]

theorem resolveEntry_eq_error {f : String × Pipeline}
    : resolveEntry ctx f = .error e ↔ f.2.build ctx = .error e := by
  simp [resolveEntry, Pipeline.build]

theorem exists_resolveEntry {f : String × Pipeline}
    : (∃ x, resolveEntry ctx f = .ok x) ↔ ∃ ds, f.2.build ctx = .ok ds := by
  rw [Except.exists_eq_ok, Except.exists_eq_ok]
  simp only [resolveEntry_eq_error]

theorem Enters.resolve_eq_error {s : Stage} {p : Pipeline} (h : s.Enters ctx p)
    (hp : p.build ctx = .error e) : s.resolve ctx = .error e := by
  have hinner : resolveInner ctx (some p) = .error e := by
    simp only [resolveInner, Except.bind_eq_error]
    exact .inl hp
  cases h with
  | @lookup l p hpipeline houtput hlocal hforeign hbindings =>
    rcases hlocal with ⟨localField, hlocal⟩
    rcases hforeign with ⟨foreignField, hforeign⟩
    rcases hbindings with ⟨bindings, hbindings⟩
    rw [resolve_lookup, hpipeline, hinner, Lookup.body]
    split
    . next h => exact absurd h houtput
    . rw [hlocal, hforeign, hbindings]
      rfl
  | unionWith hpipeline hcollection =>
    rw [resolve_unionWith, hpipeline, hinner, UnionWith.body?]
    split
    . next h => exact absurd h hcollection
    . rfl
  | @facet f before after name p hf hbefore =>
    rcases f with ⟨facets⟩
    simp only at hf
    have hfacets : resolveFacets ctx facets = .error e := by
      rw [hf, resolveFacets_eq_mapM, Except.mapM_eq_error]
      refine ⟨before, (name, p), after, rfl, ?_, ?_⟩
      . intro f hf
        rw [exists_resolveEntry]
        exact hbefore f hf
      . rw [resolveEntry_eq_error]
        exact hp
    have hne : facets.isEmpty = false := by
      rw [hf]
      simp
    rw [resolve, hne, hfacets]
    rfl

theorem exists_raised {s : Stage} (h : s.resolve ctx = .error e)
    : s.Raises ctx e ∨ ∃ p t, s.Enters ctx p ∧ p.Raised ctx e t := by
  induction s using Stage.induction with
  | step s ih =>
    by_cases hfails : ∃ p e', s.Enters ctx p ∧ p.build ctx = .error e'
    . apply Or.inr
      rcases hfails with ⟨p, e', hp, herror⟩
      have heq := hp.resolve_eq_error herror
      rw [h, Except.error.injEq] at heq
      rw [← heq, build_eq_error] at herror
      rcases herror with ⟨before, t, after, rfl, hbefore, ht⟩
      rcases hp.mem_pipelines with ⟨key, hkey⟩
      rcases ih key _ hkey t (by simp) ht with hraises | ⟨q, u, hq, hu⟩
      . exact ⟨_, t, hp, .stage rfl hbefore hraises⟩
      . exact ⟨_, u, hp, .inner rfl hbefore hq hu⟩
    . refine .inl ⟨h, ?_⟩
      intro p hp
      rw [Except.exists_eq_ok]
      intro e' herror
      exact hfails ⟨p, e', hp, herror⟩

end Stage

/-- A build fails if and only if a stage raises the error, at any depth. -/
theorem Pipeline.build_eq_error_iff {p : Pipeline}
    : p.build ctx = .error e ↔ ∃ s, p.Raised ctx e s := by
  constructor
  . intro h
    rw [Stage.build_eq_error] at h
    rcases h with ⟨before, t, after, rfl, hbefore, ht⟩
    rcases Stage.exists_raised ht with hraises | ⟨q, s, hq, hs⟩
    . exact ⟨t, .stage rfl hbefore hraises⟩
    . exact ⟨s, .inner rfl hbefore hq hs⟩
  . rintro ⟨s, h⟩
    rw [Stage.build_eq_error]
    induction h with
    | stage hp hbefore hs => exact ⟨_, _, _, hp, hbefore, hs.left⟩
    | inner hp hbefore ht _ ih =>
      rw [← Stage.build_eq_error] at ih
      exact ⟨_, _, _, hp, hbefore, ht.resolve_eq_error ih⟩

/-- Of the items that fail, the one after a part without failures is the first. -/
theorem List.eq_of_append_cons {P : α → Prop} {before before' after after' : List α} {x x' : α}
    (h : before ++ x :: after = before' ++ x' :: after') (hbefore : ∀ y ∈ before, P y) (hx : ¬ P x)
    (hbefore' : ∀ y ∈ before', P y) (hx' : ¬ P x') : x = x' := by
  induction before generalizing before' with
  | nil =>
    cases before' with
    | nil => exact (List.cons.inj h).left
    | cons y before' =>
      rw [List.nil_append, List.cons_append, List.cons.injEq] at h
      rw [h.left] at hx
      exact absurd (hbefore' y List.mem_cons_self) hx
  | cons y before ih =>
    cases before' with
    | nil =>
      rw [List.nil_append, List.cons_append, List.cons.injEq] at h
      rw [← h.left] at hx'
      exact absurd (hbefore y List.mem_cons_self) hx'
    | cons z before' =>
      rw [List.cons_append, List.cons_append, List.cons.injEq] at h
      rw [List.forall_mem_cons] at hbefore hbefore'
      exact ih h.right hbefore.right hbefore'.right

theorem Stage.Enters.eq_of_build_eq_error {s : Stage} {p q : Pipeline} {e e' : Error}
    (hp : s.Enters ctx p) (hq : s.Enters ctx q) (he : p.build ctx = .error e)
    (he' : q.build ctx = .error e') : p = q := by
  cases hp with
  | lookup hp =>
    cases hq with
    | lookup hq => rw [← Option.some_inj, ← hp, hq]
  | unionWith hp =>
    cases hq with
    | unionWith hq => rw [← Option.some_inj, ← hp, hq]
  | facet hp hbefore =>
    cases hq with
    | facet hq hbefore' =>
      rw [hp] at hq
      have heq := List.eq_of_append_cons hq hbefore (by simp [he]) hbefore' (by simp [he'])
      exact congrArg Prod.snd heq

theorem Pipeline.Raised.unique {p : Pipeline} {s t : Stage} {e e' : Error}
    (hs : p.Raised ctx e s) (ht : p.Raised ctx e' t) : s = t := by
  have hfails {p : Pipeline} {e : Error} {s : Stage} (h : p.Raised ctx e s)
      : p.build ctx = .error e := by
    rw [build_eq_error_iff]
    exact ⟨s, h⟩
  induction hs generalizing t with
  | stage hp hbefore hs =>
    cases ht with
    | stage hp' hbefore' ht =>
      rw [hp] at hp'
      exact List.eq_of_append_cons hp' hbefore (by simp [hs.left]) hbefore' (by simp [ht.left])
    | inner hp' hbefore' hq h =>
      rw [hp] at hp'
      have heq := List.eq_of_append_cons hp' hbefore (by simp [hs.left]) hbefore'
        (by simp [hq.resolve_eq_error (hfails h)])
      rw [← heq] at hq
      rcases hs.right _ hq with ⟨ds, hds⟩
      rw [hfails h] at hds
      cases hds
  | inner hp hbefore hq h ih =>
    cases ht with
    | stage hp' hbefore' ht =>
      rw [hp] at hp'
      have heq := List.eq_of_append_cons hp' hbefore (by simp [hq.resolve_eq_error (hfails h)])
        hbefore' (by simp [ht.left])
      rw [heq] at hq
      rcases ht.right _ hq with ⟨ds, hds⟩
      rw [hfails h] at hds
      cases hds
    | inner hp' hbefore' hq' h' =>
      rw [hp] at hp'
      have heq := List.eq_of_append_cons hp' hbefore (by simp [hq.resolve_eq_error (hfails h)])
        hbefore' (by simp [hq'.resolve_eq_error (hfails h')])
      rw [← heq] at hq'
      rw [← hq.eq_of_build_eq_error hq' (hfails h) (hfails h')] at h'
      exact ih h'

theorem Pipeline.Raised.raises {p : Pipeline} {s : Stage} (h : p.Raised ctx e s)
    : s.Raises ctx e := by
  induction h with
  | stage _ _ hs => exact hs
  | inner _ _ _ _ ih => exact ih

namespace Stage

theorem resolveInner_eq_error {p : Option Pipeline}
    : resolveInner ctx p = .error e ↔ ∃ q, p = some q ∧ q.build ctx = .error e := by
  cases p with
  | none => simp [resolveInner]
  | some p => simp [resolveInner, Pipeline.build]

/-- The stage with nothing in the pipelines inside it. -/
def alone : Stage → Stage
  | .lookup l => .lookup { l with pipeline := none }
  | .unionWith u => .unionWith { u with pipeline := none }
  | .facet f => .facet ⟨f.facets.map fun x => (x.1, [])⟩
  | s => s

theorem Raises.resolve_alone {s : Stage} (h : s.Raises ctx e) : s.alone.resolve ctx = .error e := by
  rcases h with ⟨h, hbuilt⟩
  simp only [Except.exists_eq_ok] at hbuilt
  cases s with
  | lookup l =>
    simp only [alone, resolve_lookup, Except.bind_eq_error, Except.pure_eq_error, and_false,
      exists_false, or_false] at h ⊢
    unfold Lookup.body at h ⊢
    cases houtput : l.output with
    | none =>
      simp only [houtput] at h ⊢
      exact h
    | some output =>
      simp only [houtput, Except.bind_eq_error, Except.pure_eq_error, and_false, exists_false,
        or_false, resolveInner_eq_error] at h ⊢
      rcases h with h | ⟨_, hlocal, h | ⟨_, hforeign, h | ⟨_, hbindings, h⟩⟩⟩
      . exact .inl h
      . exact .inr ⟨_, hlocal, .inl h⟩
      . exact .inr ⟨_, hlocal, .inr ⟨_, hforeign, .inl h⟩⟩
      . refine .inr ⟨_, hlocal, .inr ⟨_, hforeign, .inr ⟨_, hbindings, ?_⟩⟩⟩
        rcases h with ⟨q, hq, herror⟩ | ⟨inner, _, h⟩
        . have henters : (Stage.lookup l).Enters ctx q := by
            exact .lookup hq (by simp [houtput]) ⟨_, hlocal⟩ ⟨_, hforeign⟩ ⟨_, hbindings⟩
          exact absurd herror (hbuilt q henters e)
        . exact .inr ⟨[], rfl, h⟩
  | unionWith u =>
    simp only [resolve_unionWith, Except.bind_eq_error, Except.pure_eq_error, and_false,
      exists_false, or_false] at h
    unfold UnionWith.body? at h
    cases hcollection : u.collection with
    | none => simp [hcollection] at h
    | some collection =>
      simp only [hcollection, Except.bind_eq_error, Except.pure_eq_error, and_false, exists_false,
        or_false, resolveInner_eq_error] at h
      rcases h with ⟨q, hq, herror⟩
      have henters : (Stage.unionWith u).Enters ctx q := .unionWith hq (by simp [hcollection])
      exact absurd herror (hbuilt q henters e)
  | facet f =>
    rcases f with ⟨facets⟩
    cases facets with
    | nil => exact h
    | cons x facets =>
      simp only [resolve, List.isEmpty_cons, Bool.false_eq_true, if_false, Except.bind_eq_error,
        Except.pure_eq_error, and_false, exists_false, or_false, resolveFacets_eq_mapM,
        Except.mapM_eq_error, resolveEntry_eq_error, exists_resolveEntry] at h
      rcases h with ⟨before, ⟨name, q⟩, after, heq, hbefore, herror⟩
      exact absurd herror (hbuilt q (.facet heq hbefore) e)
  | _ => exact h

end Stage

end Aggregation
