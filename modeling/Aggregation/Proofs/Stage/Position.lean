import Aggregation.Pipeline
import Aggregation.Proofs.Document
import Aggregation.Proofs.Expression.Position
import Aggregation.Proofs.Stage.Basic

/-!
This module contains the places in a pipeline at which an operand can stand, and the theorem that an
operand can be replaced there by the value it resolves to.
-/

namespace Aggregation

variable {ctx : Context} {o o' : Operand} {s s' : Stage}

def Projection.operands : Projection → List Operand
  | .computed _ (.expression e) => e.operands
  | _ => []

namespace Stage

theorem resolveAll_fill (g : Gap Stage) (h : s.resolve ctx = s'.resolve ctx)
    : resolveAll ctx (g.fill s) = resolveAll ctx (g.fill s') := by
  apply g.congr_fill
  . intro c l m hlm
    rw [resolveAll, resolveAll, hlm]
  . intro l
    rw [resolveAll, resolveAll, h]

/--
A place for an operand in a stage, with the rest of the stage. The source of a computed field is
none, but what is inside of it is.
-/
inductive Slot where
  | computed (projections : Gap Projection) (field : FieldPath) (source : Expression.Slot)
  | assignment (form : AssignForm) (assignments : Gap (FieldPath × Operand)) (field : FieldPath)
  | groupKey (accumulators : List (String × Expression))
  | groupAccumulator (key : Option Operand) (accumulators : Gap (String × Expression))
      (name : String)
  | lookupBinding (l : Lookup Stage) (bindings : Gap (String × Operand)) (name : String)
  | filterExpression
  | replaceRoot
  | replaceWith
  | sortByCount

namespace Slot

def fill (o : Operand) : Slot → Stage
  | .computed projections field source =>
    .project ⟨projections.fill (Project.projection (.expression field (source.fill o)))⟩
  | .assignment form assignments field => .assign ⟨form, assignments.fill (field, o)⟩
  | .groupKey accumulators => .group ⟨some o, accumulators⟩
  | .groupAccumulator key accumulators name =>
    .group ⟨key, accumulators.fill (name, .ofOperand o)⟩
  | .lookupBinding l bindings name => .lookup { l with bindings := bindings.fill (name, o) }
  | .filterExpression => .filterExpression (.ofOperand o)
  | .replaceRoot => .replaceRoot o
  | .replaceWith => .replaceWith o
  | .sortByCount => .sortByCount o

theorem resolve_fill (p : Slot) (h : o.resolve ctx = o'.resolve ctx)
    : (p.fill o).resolve ctx = (p.fill o').resolve ctx := by
  have hexpression : (Expression.ofOperand o).resolve ctx =
      (Expression.ofOperand o').resolve ctx := by
    rw [Expression.resolve_ofOperand, Expression.resolve_ofOperand, h]
  cases p with
  | computed projections field source =>
    have hentry : Project.entry ctx (Project.projection (.expression field (source.fill o))) =
        Project.entry ctx (Project.projection (.expression field (source.fill o'))) := by
      simp only [Project.projection, Project.source, Project.entry, Operand.resolve,
        source.resolve_fill h]
    simp only [fill, resolve, Project.body, Gap.isEmpty_fill, projections.mapM_fill hentry]
  | assignment form assignments field =>
    have hentry : Assign.entry ctx (field, o) = Assign.entry ctx (field, o') := by
      simp only [Assign.entry, h]
    simp only [fill, resolve, Assign.body, Gap.isEmpty_fill, assignments.mapM_fill hentry]
  | groupKey accumulators =>
    simp only [fill, resolve, Group.body, Group.resolveKey, h]
  | groupAccumulator key accumulators name =>
    have hentry : Group.entry ctx (name, .ofOperand o) = Group.entry ctx (name, .ofOperand o') := by
      simp only [Group.entry, hexpression]
    simp only [fill, resolve, Group.body, accumulators.mapM_fill hentry]
  | lookupBinding l bindings name =>
    simp only [fill, resolve_lookup, Lookup.body, Operand.resolveBindings_fill bindings name h]
  | filterExpression => simp only [fill, resolve, hexpression]
  | replaceRoot | replaceWith | sortByCount => simp only [fill, resolve, h]

end Slot

/--
A place for a stage in a pipeline that is part of a stage.
-/
inductive Frame where
  | lookup (l : Lookup Stage) (stages : Gap Stage)
  | unionWith (u : UnionWith Stage) (stages : Gap Stage)
  | facet (facets : Gap (String × Pipeline)) (name : String) (stages : Gap Stage)

namespace Frame

def fill (s : Stage) : Frame → Stage
  | .lookup l stages => .lookup { l with pipeline := some (stages.fill s) }
  | .unionWith u stages => .unionWith { u with pipeline := some (stages.fill s) }
  | .facet facets name stages => .facet ⟨facets.fill (name, stages.fill s)⟩

theorem resolve_fill (f : Frame) (h : s.resolve ctx = s'.resolve ctx)
    : (f.fill s).resolve ctx = (f.fill s').resolve ctx := by
  cases f with
  | lookup l stages =>
    simp only [fill, resolve_lookup, resolveInner, resolveAll_fill stages h, Lookup.body]
  | unionWith u stages =>
    simp only [fill, resolve_unionWith, resolveInner, resolveAll_fill stages h, UnionWith.body?]
  | facet facets name stages =>
    have hentry : resolveEntry ctx (name, stages.fill s) =
        resolveEntry ctx (name, stages.fill s') := by
      simp only [resolveEntry, resolveAll_fill stages h]
    simp only [fill, resolve, Gap.isEmpty_fill, resolveFacets_eq_mapM, facets.mapM_fill hentry]

end Frame

theorem exists_frame {key : String} {p : Pipeline} (hp : (key, p) ∈ s.pipelines) (hs : s' ∈ p)
    : ∃ f : Frame, f.fill s' = s := by
  rcases Gap.exists_fill_eq hs with ⟨stages, rfl⟩
  cases s with
  | lookup l =>
    simp only [pipelines, List.mem_map, Option.mem_toList, Prod.mk.injEq] at hp
    rcases hp with ⟨p, hp, _, rfl⟩
    refine ⟨.lookup l stages, ?_⟩
    rw [Frame.fill, ← hp]
  | unionWith u =>
    simp only [pipelines, List.mem_map, Option.mem_toList, Prod.mk.injEq] at hp
    rcases hp with ⟨p, hp, _, rfl⟩
    refine ⟨.unionWith u stages, ?_⟩
    rw [Frame.fill, ← hp]
  | facet f =>
    rcases f with ⟨facets⟩
    rcases Gap.exists_fill_eq hp with ⟨g, rfl⟩
    exact ⟨.facet g key stages, rfl⟩
  | _ => cases hp

def nest (frames : List Frame) (s : Stage) : Stage :=
  frames.foldr (fun f s => f.fill s) s

theorem resolve_nest (frames : List Frame) (h : s.resolve ctx = s'.resolve ctx)
    : (s.nest frames).resolve ctx = (s'.nest frames).resolve ctx := by
  induction frames with
  | nil => exact h
  | cons f frames ih => exact f.resolve_fill ih

/--
The operands that a stage takes itself, without the ones in the pipelines inside of it.
-/
def operands : Stage → List Operand
  | .project p => p.projections.flatMap Projection.operands
  | .assign a => a.assignments.map Prod.snd
  | .group g => g.key.toList ++ g.accumulators.map fun a => .expression a.2
  | .lookup l => l.bindings.map Prod.snd
  | .filterExpression e => [.expression e]
  | .replaceRoot o | .replaceWith o | .sortByCount o => [o]
  | _ => []

theorem exists_slot (h : o ∈ s.operands) : ∃ p : Slot, p.fill o = s := by
  cases s with
  | project p =>
    rcases p with ⟨projections⟩
    rcases List.mem_flatMap.mp h with ⟨q, hmem, ho⟩
    rcases Gap.exists_fill_eq hmem with ⟨g, rfl⟩
    cases q with
    | keep | drop => cases ho
    | computed field source =>
      cases source with
      | expression e =>
        rcases Expression.exists_slot ho with ⟨source, rfl⟩
        exact ⟨.computed g field source, rfl⟩
      | _ => cases ho
  | assign a =>
    rcases a with ⟨form, assignments⟩
    rcases List.mem_map.mp h with ⟨⟨field, _⟩, hmem, rfl⟩
    rcases Gap.exists_fill_eq hmem with ⟨g, rfl⟩
    exact ⟨.assignment form g field, rfl⟩
  | group g =>
    rcases g with ⟨key, accumulators⟩
    simp only [operands, List.mem_append, Option.mem_toList, List.mem_map] at h
    rcases h with h | ⟨⟨name, e⟩, hmem, rfl⟩
    . cases h
      exact ⟨.groupKey accumulators, rfl⟩
    . rcases Gap.exists_fill_eq hmem with ⟨g, rfl⟩
      exact ⟨.groupAccumulator key g name, rfl⟩
  | lookup l =>
    rcases List.mem_map.mp h with ⟨⟨name, _⟩, hmem, rfl⟩
    rcases Gap.exists_fill_eq hmem with ⟨g, hg⟩
    refine ⟨.lookupBinding l g name, ?_⟩
    rw [Slot.fill, hg]
  | filterExpression e =>
    cases List.mem_singleton.mp h
    exact ⟨.filterExpression, rfl⟩
  | replaceRoot _ =>
    cases List.mem_singleton.mp h
    exact ⟨.replaceRoot, rfl⟩
  | replaceWith _ =>
    cases List.mem_singleton.mp h
    exact ⟨.replaceWith, rfl⟩
  | sortByCount _ =>
    cases List.mem_singleton.mp h
    exact ⟨.sortByCount, rfl⟩
  | _ => cases h

end Stage

namespace Pipeline

/--
A place for an operand at any depth of a pipeline. On the way to it there are stages with pipelines
inside, then the stage with the operand, and then expressions.
-/
structure Position where
  stages : Gap Stage
  frames : List Stage.Frame
  stage : Stage.Slot
  slots : List Expression.Slot

def Position.fill (p : Position) (o : Operand) : Pipeline :=
  p.stages.fill ((p.stage.fill (o.nest p.slots)).nest p.frames)

theorem Position.build_fill (p : Position) (h : o.resolve ctx = o'.resolve ctx)
    : (p.fill o).build ctx = (p.fill o').build ctx := by
  apply Stage.resolveAll_fill
  apply Stage.resolve_nest
  apply Stage.Slot.resolve_fill
  apply Operand.resolve_nest
  exact h

inductive Holds (p : Pipeline) : Stage → Prop where
  | stage {s : Stage} (hs : s ∈ p) : Holds p s
  | inner {s s' : Stage} (h : Holds p s) (hq : (key, q) ∈ s.pipelines) (hs : s' ∈ q) : Holds p s'

theorem Holds.exists_nest {p : Pipeline} (h : p.Holds s)
    : ∃ (g : Gap Stage) (frames : List Stage.Frame), g.fill (s.nest frames) = p := by
  induction h with
  | stage hs =>
    rcases Gap.exists_fill_eq hs with ⟨g, rfl⟩
    exact ⟨g, [], rfl⟩
  | inner _ hq hs ih =>
    rcases ih with ⟨g, frames, rfl⟩
    rcases Stage.exists_frame hq hs with ⟨f, rfl⟩
    refine ⟨g, frames ++ [f], ?_⟩
    rw [Stage.nest, Stage.nest, List.foldr_append]
    rfl

/--
The positions are all places in a pipeline that an operand can be at.
-/
theorem exists_position {p : Pipeline} {root : Operand} (hs : p.Holds s) (hroot : root ∈ s.operands)
    (ho : root.Holds o) : ∃ q : Position, q.fill o = p := by
  rcases hs.exists_nest with ⟨stages, frames, rfl⟩
  rcases Stage.exists_slot hroot with ⟨stage, rfl⟩
  rcases ho.exists_nest with ⟨slots, rfl⟩
  exact ⟨⟨stages, frames, stage, slots⟩, rfl⟩

end Pipeline

namespace Operand

structure Interchangeable (ctx : Context) (o o' : Operand) : Prop where
  expression (slots : List Expression.Slot)
    : (Expression.ofOperand (o.nest slots)).resolve ctx =
        (Expression.ofOperand (o'.nest slots)).resolve ctx
  pipeline (p : Pipeline.Position) : (p.fill o).build ctx = (p.fill o').build ctx

theorem interchangeable_iff
    : Interchangeable ctx o o' ↔ o.resolve ctx = o'.resolve ctx := by
  constructor
  . intro h
    have hhere := h.expression []
    rw [Expression.resolve_ofOperand, Expression.resolve_ofOperand] at hhere
    exact hhere
  . intro h
    constructor
    . intro slots
      rw [Expression.resolve_ofOperand, Expression.resolve_ofOperand]
      exact resolve_nest slots h
    . intro p
      exact p.build_fill h

theorem interchangeable_with_value_and_expression {v : Bson} (h : o.resolve ctx = .ok v)
    : Interchangeable ctx o (.literal v) ∧
      Interchangeable ctx o (.expression (.ofOperand o)) := by
  constructor
  . rw [interchangeable_iff, h]
    rfl
  . rw [interchangeable_iff, resolve, Expression.resolve_ofOperand]

def total : Operand :=
  .expression (.list .add (.field "price") [.field "fee"])

def totalValue : Bson :=
  .single "$add" (.array [.string "$price", .string "$fee"])

/--
The condition on the documents of another collection, in the pipeline of the stage that joins them.
-/
def joinedCondition : Pipeline.Position where
  stages := ⟨[.limit 5], []⟩
  frames := [.lookup { source := some "orders", output := some (.name "large") } ⟨[], [.skip 1]⟩]
  stage := .filterExpression
  slots := [.listFirst .gt [.literal (.int32 100)]]

def joinedLarge : List Document := [
  .single "$limit" (.int64 5),
  .single "$lookup" (.document [
    ("from", .string "orders"),
    ("pipeline", .array [
      .single "$match" (.single "$expr" (.single "$gt" (.array [totalValue, .int32 100]))),
      .single "$skip" (.int64 1)]),
    ("as", .string "large")])
]

theorem interchangeable_total
    : total.resolve {} = .ok totalValue ∧
      (joinedCondition.fill (.literal totalValue)).build {} = .ok joinedLarge ∧
      (joinedCondition.fill (.expression (.ofOperand total))).build {} = .ok joinedLarge := by
  have htotal : total.resolve {} = .ok totalValue := by rfl
  have hbuild : (joinedCondition.fill total).build {} = .ok joinedLarge := by rfl
  rcases interchangeable_with_value_and_expression htotal with ⟨hvalue, hexpression⟩
  refine ⟨htotal, ?_, ?_⟩
  . rw [← hvalue.pipeline, hbuild]
  . rw [← hexpression.pipeline, hbuild]

end Operand

/--
The source of a computed field is not among the places. A constant is marked there, and an operand
that resolves to the constant is not.
-/
theorem Project.entry_literal_ne {field : FieldPath} {name : String} {v : Bson}
    (hfield : field.resolve ctx = .ok name) (h : o.resolve ctx = .ok v) (ho : ∀ w, o ≠ .literal w)
    : entry ctx (projection (.computed (.literal v) field)) ≠
        entry ctx (projection (.computed o field)) := by
  have hsource : source o = o := by
    cases o with
    | literal w => exact absurd rfl (ho w)
    | _ => rfl
  have hmarked : entry ctx (projection (.computed (.literal v) field)) =
      .ok (name, .single "$literal" v) := by
    rw [projection, entry, hfield]
    rfl
  have hplain : entry ctx (projection (.computed o field)) = .ok (name, v) := by
    rw [projection, hsource, entry, hfield, h]
    rfl
  rw [hmarked, hplain]
  intro heq
  injection heq with heq
  injection heq with _ heq
  exact Bson.ne_single "$literal" v heq.symm

end Aggregation
