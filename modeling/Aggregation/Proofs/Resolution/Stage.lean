import Aggregation.Proofs.Resolution.Asks

/-!
This module contains the checks that stages and pipelines ask for when they are resolved.
-/

namespace Aggregation

theorem Asks.paths (fields : List FieldPath)
    : Asks (fields.map .path) fun c =>
        (fields.map (FieldPath.substitute c.replacement)).mapM (FieldPath.resolve c.context) := by
  simp only [List.mapM_map]
  rw [List.map_eq_flatMap]
  apply Asks.mapM
  intro f _
  exact Asks.path f

theorem Asks.path? (o : Option FieldPath)
    : Asks (o.toList.map .path) fun c =>
        (o.map (FieldPath.substitute c.replacement)).mapM (FieldPath.resolve c.context) := by
  cases o with
  | none => exact .pure none
  | some f => exact (Asks.path f).map _

namespace Project

theorem asks_entry (q : Projection)
    : Asks q.checks fun c => entry c.context (q.substitute c.replacement) := by
  cases q with
  | keep f | drop f => exact (Asks.path f).map _
  | computed f o =>
    apply (Asks.path f).bind
    intro name
    exact o.asks.map _

theorem asks (p : Project) : Asks p.checks fun c => (p.substitute c.replacement).body c.context := by
  simp only [checks, substitute, body, List.isEmpty_map, List.mapM_map, Except.throw_bind]
  apply Asks.guard
  apply Asks.map
  apply Asks.mapM
  intro q _
  exact asks_entry q

end Project

namespace Assign

theorem asks_entry (x : FieldPath × Operand)
    : Asks (.path x.1 :: x.2.checks) fun c =>
        entry c.context (x.1.substitute c.replacement, x.2.substitute c.replacement) := by
  apply (Asks.path x.1).bind
  intro name
  exact x.2.asks.map _

theorem asks (a : Assign) : Asks a.checks fun c => (a.substitute c.replacement).body c.context := by
  simp only [checks, substitute, body, List.isEmpty_map, List.mapM_map, Except.throw_bind]
  apply Asks.guard
  apply Asks.map
  apply Asks.mapM
  intro x _
  exact asks_entry x

end Assign

namespace Group

theorem asks_resolveKey (key : Option Operand)
    : Asks (key.toList.flatMap Operand.checks) fun c =>
        resolveKey c.context (key.map (Operand.substitute c.replacement)) := by
  cases key with
  | none => exact .pure Bson.null
  | some o =>
    rw [Option.toList_some, List.flatMap_singleton]
    exact o.asks

theorem asks_entry (x : String × Expression)
    : Asks (Check.faultIf (x.1 = identityField) (.incompleteStage "$group" .reservedAccumulator) ++
          x.2.checks)
        fun c => entry c.context (x.1, x.2.substitute c.replacement) := by
  by_cases h : x.1 = identityField
  . simp only [entry, h, if_true]
    exact .fail _ _
  . simp only [entry, h, if_false, decide_false]
    exact x.2.asks.map _

theorem asks (g : Group) : Asks g.checks fun c => (g.substitute c.replacement).body c.context := by
  simp only [checks, substitute, body, List.mapM_map]
  apply (asks_resolveKey g.key).bind
  intro key
  apply Asks.map
  apply Asks.mapM
  intro x _
  exact asks_entry x

end Group

namespace SortBy

theorem asks_entry (x : FieldPath × SortOrder)
    : Asks [.path x.1] fun c => entry c.context (x.1.substitute c.replacement, x.2) := by
  simp only [entry]
  exact (Asks.path x.1).map _

theorem asks (s : SortBy) : Asks s.checks fun c => (s.substitute c.replacement).body c.context := by
  simp only [checks, substitute, body, List.isEmpty_map, List.mapM_map, Except.throw_bind]
  apply Asks.guard
  rw [List.map_eq_flatMap]
  apply Asks.map
  apply Asks.mapM
  intro x _
  exact asks_entry x

end SortBy

variable {inner : Environment → Option Pipeline} {ks : List Check}
  {entries : Environment → Except Error (List (String × Bson))}

theorem Lookup.asks (h : Asks ks entries) (l : Lookup Stage)
    : Asks (l.checks ks) fun c =>
        (l.substitute c.replacement (inner c)).body c.context (entries c) := by
  simp only [checks, substitute, body]
  cases l.output with
  | none => exact .fail _ _
  | some output =>
    simp only [List.append_assoc]
    apply (Asks.path? l.localField).bind
    intro localField
    apply (Asks.path? l.foreignField).bind
    intro foreignField
    apply (Operand.asksBindings l.bindings).bind
    intro bindings
    apply h.bind
    intro pipeline
    exact (Asks.path output).map _

theorem Unwind.asks (u : Unwind)
    : Asks u.checks fun c => (u.substitute c.replacement).body? c.context := by
  simp only [checks, substitute, body?]
  cases u.path with
  | none => exact .pure none
  | some path =>
    apply ((Asks.path path).map _).bind
    intro path
    exact (Asks.path? u.arrayIndex).map _

theorem UnionWith.asks (h : Asks ks entries) (u : UnionWith Stage)
    : Asks (u.checks ks) fun c => (UnionWith.mk u.collection (inner c)).body? (entries c) := by
  simp only [checks, body?]
  cases u.collection with
  | none => exact .pure none
  | some collection => exact h.map _

theorem Search.asks (s : Search)
    : Asks s.checks fun c => (s.substitute c.replacement).body c.context := by
  simp only [checks, substitute, body]
  cases s.operator with
  | none => exact .fail _ _
  | some o =>
    simp only [Option.toList_some, List.flatMap_singleton]
    exact o.asks.map _

namespace Stage

theorem asks_unsetBody (fields : List FieldPath)
    : Asks (fields.map .path ++ Check.faultIf fields.isEmpty (.incompleteStage "$unset" .noField))
        fun c => unsetBody c.context (fields.map (FieldPath.substitute c.replacement)) := by
  cases fields with
  | nil => exact .fail _ []
  | cons f fields =>
    simp only [unsetBody, List.map_cons, List.mapM_cons, bind_assoc, pure_bind]
    apply (Asks.path f).bind
    intro path
    apply (Asks.paths fields).bind
    intro paths
    cases paths <;> exact .pure _

mutual

theorem asks (s : Stage)
    : Asks s.checks fun c => (s.substitute c.replacement).resolve c.context := by
  cases s with
  | project p => exact p.asks.map _
  | assign a =>
    simp only [checks, substitute, resolve, Assign.form_substitute]
    exact a.asks.map _
  | group g => exact g.asks.map _
  | sort s => exact s.asks.map _
  | lookup l => exact (l.asks (asksInner l.pipeline)).map _
  | unwind u => exact u.asks.map _
  | unionWith u => exact (u.asks (asksInner u.pipeline)).map _
  | facet f =>
    simp only [checks, substitute, resolve, isEmpty_substituteFacets, Except.throw_bind]
    apply Asks.guard
    exact (asksFacets f.facets).map _
  | search s =>
    simp only [checks, substitute, resolve, Search.form_substitute]
    exact s.asks.map _
  | filter c => exact c.asks_query.map _
  | filterExpression e => exact e.asks.map _
  | unset fields => exact (asks_unsetBody fields).map _
  | replaceRoot o | replaceWith o | sortByCount o => exact o.asks.map _
  | count | limit | skip | sample | documents | raw => exact .pure _

theorem asksAll (ss : List Stage)
    : Asks (checksOfAll ss) fun c => resolveAll c.context (substituteAll c.replacement ss) := by
  cases ss with
  | nil => exact .pure []
  | cons s ss =>
    apply s.asks.bind
    intro d
    exact (asksAll ss).map _

theorem asksInner (stages : Option (List Stage))
    : Asks (checksOfInner stages) fun c =>
        resolveInner c.context (substituteInner c.replacement stages) := by
  cases stages with
  | none => exact .pure []
  | some stages => exact (asksAll stages).map _

theorem asksFacets (facets : List (String × List Stage))
    : Asks (checksOfFacets facets) fun c =>
        resolveFacets c.context (substituteFacets c.replacement facets) := by
  cases facets with
  | nil => exact .pure []
  | cons facet facets =>
    rcases facet with ⟨name, stages⟩
    apply (asksAll stages).bind
    intro ds
    exact (asksFacets facets).map _

end

end Stage

theorem Pipeline.asks_build (p : Pipeline)
    : Asks p.checks fun c => (p.substitute c.replacement).build c.context := by
  exact Stage.asksAll p

end Aggregation
