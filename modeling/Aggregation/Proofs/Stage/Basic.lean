import Aggregation.Proofs.Except
import Aggregation.Stage.Resolve

/-!
This module contains the pipelines inside a stage, induction over them, and the equations of their
resolution.
-/

namespace Aggregation

namespace Stage

/--
The pipelines inside a stage, each with the key under which it is written.
-/
def pipelines : Stage → List (String × Pipeline)
  | .lookup l => l.pipeline.toList.map fun p => ("pipeline", p)
  | .unionWith u => u.pipeline.toList.map fun p => ("pipeline", p)
  | .facet f => f.facets
  | _ => []

theorem induction {motive : Stage → Prop}
    (step : ∀ s, (∀ key p, (key, p) ∈ s.pipelines → ∀ t ∈ p, motive t) → motive s)
    (s : Stage) : motive s := by
  apply @Stage.rec motive
    (fun l => ∀ p ∈ l.pipeline, ∀ s ∈ p, motive s)
    (fun u => ∀ p ∈ u.pipeline, ∀ s ∈ p, motive s)
    (fun f => ∀ name p, (name, p) ∈ f.facets → ∀ s ∈ p, motive s)
    (fun inner => ∀ p ∈ inner, ∀ s ∈ p, motive s)
    (fun facets => ∀ name p, (name, p) ∈ facets → ∀ s ∈ p, motive s)
    (fun p => ∀ s ∈ p, motive s)
    (fun e => ∀ s ∈ e.2, motive s)
  case lookup | unionWith | facet =>
    intro _ ih
    apply step
    simp only [pipelines]
    grind
  -- No other stage has pipelines inside.
  iterate 18 (intro; apply step; simp [pipelines])
  all_goals
    clear step
    grind

def resolveEntry (ctx : Context) (e : String × Pipeline) : Except Error (String × Bson) := do
  return (e.1, .array ((← resolveAll ctx e.2).map .document))

theorem resolveInner_eq_mapM (ctx : Context) (p : Option Pipeline)
    : resolveInner ctx p =
        (p.toList.map fun p => ("pipeline", p)).mapM (resolveEntry ctx) := by
  cases p with
  | none => simp [resolveInner]
  | some p => simp [resolveInner, resolveEntry]

theorem resolveFacets_eq_mapM (ctx : Context) (facets : List (String × Pipeline))
    : resolveFacets ctx facets = facets.mapM (resolveEntry ctx) := by
  induction facets with
  | nil => simp [resolveFacets]
  | cons e facets ih =>
    rcases e with ⟨name, p⟩
    simp [resolveFacets, resolveEntry, ih]

theorem resolveAll_eq_map (ctx : Context) (p : Pipeline)
    : resolveAll ctx p = (fun ds => ds.flatMap Option.toList) <$> p.mapM (resolve ctx) := by
  induction p with
  | nil => simp [resolveAll]
  | cons s p ih => simp [resolveAll, ih]

/-!
The three stages with pipelines inside.
-/

@[simp]
theorem resolve_lookup (ctx : Context) (l : Lookup Stage)
    : (lookup l).resolve ctx = (do
        let d ← l.body ctx (resolveInner ctx l.pipeline)
        return some (.single "$lookup" (.document d))) := by
  rfl

@[simp]
theorem resolve_unionWith (ctx : Context) (u : UnionWith Stage)
    : (unionWith u).resolve ctx = (do
        return (← u.body? (resolveInner ctx u.pipeline)).map fun body =>
          .single "$unionWith" (.document body)) := by
  rfl

theorem resolve_facet_eq_ok {ctx : Context} {f : Facet Stage} {d : Option Document}
    : (facet f).resolve ctx = .ok d ↔ f.facets ≠ [] ∧
        ∃ es, resolveFacets ctx f.facets = .ok es ∧
          some (.single "$facet" (.ofEntries es)) = d := by
  rw [resolve]
  cases f.facets with
  | nil => simp
  | cons e facets => simp

end Stage

end Aggregation
