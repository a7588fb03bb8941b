import Aggregation.Proofs.Resolution.Origin

/-!
This module contains the stage that an error about an incomplete stage names. It is the one that
raises the error, unless the clauses of a search for facts are missing.
-/

namespace Aggregation

def Check.incomplete? : Check → Option (String × StageFault)
  | .fault (.incompleteStage stage lack) => some (stage, lack)
  | _ => none

theorem Check.incomplete?_paths (xs : List α) (f : α → FieldPath)
    : (xs.map fun x => Check.path (f x)).filterMap incomplete? = [] := by
  rw [List.filterMap_map, List.filterMap_eq_nil_iff]
  intro x _
  rfl

mutual

theorem Criteria.incomplete?_checks (v : FieldOperator → Bson → Option CriteriaFault) (c : Criteria)
    : (c.checks v).filterMap Check.incomplete? = [] := by
  cases c with
  | all parts =>
    rw [checks, List.filterMap_append, Criteria.incomplete?_checksOfAll v parts]
    cases parts <;> rfl
  | any parts =>
    rw [checks, List.filterMap_append, Criteria.incomplete?_checksOfAll v parts]
    cases parts <;> rfl
  | negation part =>
    rw [checks]
    exact part.incomplete?_checks v
  | presence f expected => rfl
  | field f operator value =>
    rw [checks]
    cases v operator value <;> rfl

theorem Criteria.incomplete?_checksOfAll (v : FieldOperator → Bson → Option CriteriaFault)
    (cs : List Criteria) : (checksOfAll v cs).filterMap Check.incomplete? = [] := by
  cases cs with
  | nil => rfl
  | cons c cs =>
    rw [checksOfAll, List.filterMap_append, c.incomplete?_checks v,
      Criteria.incomplete?_checksOfAll v cs, List.append_nil]

end

mutual

theorem Operand.incomplete?_checks (o : Operand) : o.checks.filterMap Check.incomplete? = [] := by
  cases o with
  | expression e => exact e.incomplete?_checks
  | _ => rfl

theorem Expression.incomplete?_checks (e : Expression)
    : e.checks.filterMap Check.incomplete? = [] := by
  cases e with
  | operand o | not o | accumulate _ o => exact o.incomplete?_checks
  | list _ first rest =>
    simp only [Expression.checks, List.filterMap_append, first.incomplete?_checks,
      Operand.incomplete?_checksOfAll rest, List.append_nil]
  | pair _ first second =>
    simp only [Expression.checks, List.filterMap_append, first.incomplete?_checks,
      second.incomplete?_checks, List.append_nil]
  | cond condition consequence alternative =>
    simp only [Expression.checks, List.filterMap_append, condition.incomplete?_checks,
      consequence.incomplete?_checks, alternative.incomplete?_checks, List.append_nil]
  | ifNull first rest replacement =>
    simp only [Expression.checks, List.filterMap_append, first.incomplete?_checks,
      Operand.incomplete?_checksOfAll rest, replacement.incomplete?_checks, List.append_nil]
  | switch branches default =>
    simp only [Expression.checks, List.filterMap_append,
      Expression.incomplete?_checksOfBranches branches,
      Operand.incomplete?_checksOfDefault default, List.append_nil]
    cases branches <;> rfl
  | bind bindings body =>
    simp only [Expression.checks, List.filterMap_append,
      Operand.incomplete?_checksOfBindings bindings, Expression.incomplete?_checksOfBody body,
      List.append_nil]
  | criteria c => exact c.incomplete?_checks _
  | literal | metadata | countAll => rfl

theorem Operand.incomplete?_checksOfAll (os : List Operand)
    : (Operand.checksOfAll os).filterMap Check.incomplete? = [] := by
  cases os with
  | nil => rfl
  | cons o os =>
    rw [Operand.checksOfAll, List.filterMap_append, o.incomplete?_checks,
      Operand.incomplete?_checksOfAll os, List.append_nil]

theorem Expression.incomplete?_checksOfBranches (branches : List (Expression × Operand))
    : (Expression.checksOfBranches branches).filterMap Check.incomplete? = [] := by
  cases branches with
  | nil => rfl
  | cons b branches =>
    rcases b with ⟨e, o⟩
    simp only [Expression.checksOfBranches, List.filterMap_append, e.incomplete?_checks,
      o.incomplete?_checks, Expression.incomplete?_checksOfBranches branches, List.append_nil]

theorem Operand.incomplete?_checksOfDefault (default : Option Operand)
    : (Operand.checksOfDefault default).filterMap Check.incomplete? = [] := by
  cases default with
  | none => rfl
  | some o => exact o.incomplete?_checks

theorem Operand.incomplete?_checksOfBindings (bindings : List (String × Operand))
    : (Operand.checksOfBindings bindings).filterMap Check.incomplete? = [] := by
  cases bindings with
  | nil => rfl
  | cons b bindings =>
    rcases b with ⟨name, o⟩
    rw [Operand.checksOfBindings, List.filterMap_append, o.incomplete?_checks,
      Operand.incomplete?_checksOfBindings bindings, List.append_nil]

theorem Expression.incomplete?_checksOfBody (body : Option Expression)
    : (Expression.checksOfBody body).filterMap Check.incomplete? = [] := by
  cases body with
  | none => rfl
  | some e => exact e.incomplete?_checks

end

namespace Search

mutual

theorem Operator.incomplete?_checks (o : Operator)
    : ∀ x ∈ o.checks.filterMap Check.incomplete?, x = ("$search", .noClause) := by
  cases o with
  | compound c =>
    rcases c with ⟨must, mustNot, should, filter, minimum⟩
    simp only [Operator.checks, List.filterMap_append, List.forall_mem_append]
    refine ⟨⟨⟨⟨?_, incomplete?_checksOfAll must⟩, incomplete?_checksOfAll mustNot⟩,
      incomplete?_checksOfAll should⟩, incomplete?_checksOfAll filter⟩
    unfold Check.faultIf
    split <;> simp [Check.incomplete?]
  | _ => simp [Operator.checks, Check.incomplete?]

theorem Operator.incomplete?_checksOfAll (os : List Operator)
    : ∀ x ∈ (Operator.checksOfAll os).filterMap Check.incomplete?,
        x = ("$search", .noClause) := by
  cases os with
  | nil => simp [Operator.checksOfAll]
  | cons o os =>
    rw [Operator.checksOfAll, List.filterMap_append, List.forall_mem_append]
    exact ⟨o.incomplete?_checks, Operator.incomplete?_checksOfAll os⟩

end

end Search

theorem Check.incomplete?_faultIf {b : Bool} {stage : String} {lack : StageFault}
    : ∀ x ∈ (faultIf b (.incompleteStage stage lack)).filterMap incomplete?, x.1 = stage := by
  cases b <;> simp [faultIf, incomplete?]

theorem Check.incomplete?_flatMap {xs : List α} {ks : α → List Check}
    (h : ∀ x ∈ xs, (ks x).filterMap incomplete? = [])
    : (xs.flatMap ks).filterMap incomplete? = [] := by
  rw [List.filterMap_flatMap, List.flatMap_eq_nil_iff]
  exact h

theorem Projection.incomplete?_checks (q : Projection)
    : q.checks.filterMap Check.incomplete? = [] := by
  cases q with
  | keep f | drop f => rfl
  | computed f o => exact o.incomplete?_checks

theorem Project.incomplete?_checks (p : Project)
    : ∀ x ∈ p.checks.filterMap Check.incomplete?, x.1 = "$project" := by
  rw [checks, List.filterMap_append, Check.incomplete?_flatMap, List.append_nil]
  . exact Check.incomplete?_faultIf
  . intro q _
    exact q.incomplete?_checks

theorem Assign.incomplete?_checks (a : Assign)
    : ∀ x ∈ a.checks.filterMap Check.incomplete?, x.1 = a.form.name := by
  rw [checks, List.filterMap_append, Check.incomplete?_flatMap, List.append_nil]
  . exact Check.incomplete?_faultIf
  . intro x _
    exact x.2.incomplete?_checks

theorem Group.incomplete?_checks (g : Group)
    : ∀ x ∈ g.checks.filterMap Check.incomplete?, x.1 = "$group" := by
  rw [checks, List.filterMap_append, Check.incomplete?_flatMap, List.nil_append]
  . intro x hx
    rw [List.filterMap_flatMap, List.mem_flatMap] at hx
    rcases hx with ⟨⟨name, e⟩, _, hx⟩
    rw [List.filterMap_append, e.incomplete?_checks, List.append_nil] at hx
    exact Check.incomplete?_faultIf x hx
  . intro o _
    exact o.incomplete?_checks

theorem SortBy.incomplete?_checks (s : SortBy)
    : ∀ x ∈ s.checks.filterMap Check.incomplete?, x.1 = "$sort" := by
  rw [checks, List.filterMap_append, Check.incomplete?_paths, List.append_nil]
  exact Check.incomplete?_faultIf

theorem Lookup.incomplete?_checks (l : Lookup Stage)
    : ∀ x ∈ (l.checks []).filterMap Check.incomplete?, x.1 = "$lookup" := by
  have hpaths (f : Option FieldPath) : (f.toList.map .path).filterMap Check.incomplete? = [] := by
    exact Check.incomplete?_paths f.toList id
  simp only [checks, List.filterMap_append, Operand.incomplete?_checksOfBindings, hpaths,
    List.append_nil]
  exact Check.incomplete?_faultIf

theorem Unwind.incomplete?_checks (u : Unwind) : u.checks.filterMap Check.incomplete? = [] := by
  unfold checks
  split
  . rfl
  . rw [List.filterMap_cons]
    exact Check.incomplete?_paths u.arrayIndex.toList id

theorem Search.incomplete?_checks (s : Search)
    : ∀ x ∈ s.checks.filterMap Check.incomplete?,
        x.1 = s.form.name ∨ x = ("$search", .noClause) := by
  rw [checks, List.filterMap_append, List.forall_mem_append]
  constructor
  . intro x hx
    exact .inl (Check.incomplete?_faultIf x hx)
  . intro x hx
    rw [List.filterMap_flatMap, List.mem_flatMap] at hx
    rcases hx with ⟨o, _, hx⟩
    exact .inr (o.incomplete?_checks x hx)

namespace Stage

theorem checksOfFacets_alone (facets : List (String × Pipeline))
    : checksOfFacets (facets.map fun x => (x.1, [])) = [] := by
  induction facets with
  | nil => rfl
  | cons x facets ih =>
    rw [List.map_cons, checksOfFacets, checksOfAll, ih]
    rfl

theorem incomplete?_checks_alone (s : Stage)
    : ∀ x ∈ s.alone.checks.filterMap Check.incomplete?,
        x.1 = s.name ∨ x = ("$search", .noClause) ∧ s.name = "$searchMeta" := by
  have hnone {ks : List Check} (h : ks.filterMap Check.incomplete? = [])
      : ∀ x ∈ ks.filterMap Check.incomplete?,
          x.1 = s.name ∨ x = ("$search", .noClause) ∧ s.name = "$searchMeta" := by
    simp [h]
  cases s with
  | project p => exact fun x hx => .inl (p.incomplete?_checks x hx)
  | assign a => exact fun x hx => .inl (a.incomplete?_checks x hx)
  | group g => exact fun x hx => .inl (g.incomplete?_checks x hx)
  | sort s => exact fun x hx => .inl (s.incomplete?_checks x hx)
  | lookup l => exact fun x hx => .inl (Lookup.incomplete?_checks _ x hx)
  | unwind u => exact hnone u.incomplete?_checks
  | unionWith u =>
    apply hnone
    rw [alone, checks, UnionWith.checks]
    split <;> rfl
  | facet f =>
    intro x hx
    rw [alone, checks, checksOfFacets_alone, List.append_nil] at hx
    exact .inl (Check.incomplete?_faultIf x hx)
  | search s =>
    intro x hx
    rcases s.incomplete?_checks x hx with h | h
    . exact .inl h
    . cases hform : s.form with
      | documents =>
        rw [h, name, hform]
        exact .inl rfl
      | facts =>
        rw [h, name, hform]
        exact .inr ⟨rfl, rfl⟩
  | filter c => exact hnone (c.incomplete?_checks _)
  | filterExpression e => exact hnone e.incomplete?_checks
  | replaceRoot o | replaceWith o | sortByCount o => exact hnone o.incomplete?_checks
  | unset fields =>
    intro x hx
    have hpaths : (fields.map .path).filterMap Check.incomplete? = [] := by
      exact Check.incomplete?_paths fields id
    rw [alone, checks, List.filterMap_append, hpaths, List.nil_append] at hx
    . exact .inl (Check.incomplete?_faultIf x hx)
    all_goals simp
  | count | limit | skip | sample | documents | raw => exact hnone rfl

end Stage

variable {ctx : Context} {name : String} {lack : StageFault}

namespace Check

theorem fault?_eq_incompleteStage {k : Check}
    (h : k.fault? ctx = some (.incompleteStage name lack))
    : k.incomplete? = some (name, lack) ∨
        ∃ q ∈ k.properties, ctx.resolveProperty q = .error (.incompleteStage name lack) := by
  have hpath {f : FieldPath} (h : f.fault? ctx = some (.incompleteStage name lack))
      : ∃ q, f = .property q ∧ ctx.resolveProperty q = .error (.incompleteStage name lack) := by
    rw [← FieldPath.resolve_eq_error] at h
    cases f with
    | name path =>
      rw [FieldPath.resolve] at h
      split at h <;> simp at h
    | property q => exact ⟨q, rfl, h⟩
  cases k with
  | path f | reference f =>
    rcases hpath h with ⟨q, rfl, hq⟩
    exact .inr ⟨q, List.mem_cons_self, hq⟩
  | instant t => simp [fault?] at h
  | fault e =>
    rw [fault?, Option.some.injEq] at h
    rw [h]
    exact .inl rfl

end Check

namespace Stage

theorem exists_fault {s : Stage} {e : Error} (h : s.resolve ctx = .error e)
    : ∃ k ∈ s.checks, k.fault? ctx = some e := by
  have hasks := s.asks.eq_error ctx e
  rw [substitute_property] at hasks
  rw [hasks] at h
  rw [← List.mem_filterMap]
  exact List.mem_of_head? h

theorem Raises.incompleteStage {s : Stage} (h : s.Raises ctx (.incompleteStage name lack))
    : name = s.name ∨ (name = "$search" ∧ lack = .noClause) ∧ s.name = "$searchMeta" ∨
        ∃ q ∈ Pipeline.properties [s.alone],
          ctx.resolveProperty q = .error (.incompleteStage name lack) := by
  rcases exists_fault h.resolve_alone with ⟨k, hk, hfault⟩
  rcases Check.fault?_eq_incompleteStage hfault with hincomplete | ⟨q, hq, herror⟩
  . have hmem := List.mem_filterMap.mpr ⟨k, hk, hincomplete⟩
    rcases s.incomplete?_checks_alone _ hmem with hname | ⟨hsearch, hname⟩
    . exact .inl hname
    . rw [Prod.mk.injEq] at hsearch
      exact .inr (.inl ⟨hsearch, hname⟩)
  . refine .inr (.inr ⟨q, ?_, herror⟩)
    rw [Pipeline.properties, List.mem_flatMap]
    refine ⟨k, ?_, hq⟩
    rw [Pipeline.checks, checksOfAll, checksOfAll, List.append_nil]
    exact hk

end Stage

/-- The default names of properties do not bring such errors along. -/
theorem Property.path_ne_incompleteStage (q : Property)
    : q.path ≠ .error (.incompleteStage name lack) := by
  have hsegment (l : Link) : l.segment ≠ .error (.incompleteStage name lack) := by
    unfold Link.segment
    split <;> simp
  induction q with
  | root l => exact hsegment l
  | child p l ih =>
    rw [path, ne_eq, Except.bind_eq_error]
    simp [hsegment l, ih]

namespace Pipeline

/--
One stage raises the error, and the error names this stage. Apart from that it can name another
stage only for a search for facts without clauses, or if a property was refused with it.
-/
theorem incompleteStage_of_build {p : Pipeline}
    (h : p.build ctx = .error (.incompleteStage name lack))
    : ∃ s, p.Raised ctx (.incompleteStage name lack) s ∧
        (∀ t, p.Raised ctx (.incompleteStage name lack) t → t = s) ∧
        (name = s.name ∨ (name = "$search" ∧ lack = .noClause) ∧ s.name = "$searchMeta" ∨
          ∃ q ∈ properties [s.alone],
            ctx.resolveProperty q = .error (.incompleteStage name lack)) := by
  rcases build_eq_error_iff.mp h with ⟨s, hs⟩
  refine ⟨s, hs, ?_, hs.raises.incompleteStage⟩
  intro t ht
  exact ht.unique hs

def unsortedFacet : Pipeline := [
  .limit 10,
  .lookup {
    source := some "orders"
    localField := some (.property (.named "sku"))
    pipeline := some [
      .unwind {},
      .facet ⟨[("large", [.limit 1]), ("best", [.skip 1, .sort {}]), ("none", [.unset []])]⟩]
    output := some (.name "orders") },
  .project {}]

theorem incompleteStage_unsortedFacet
    : unsortedFacet.build {} = .error (.incompleteStage "$sort" .noSortKey) ∧
        ∃ s, unsortedFacet.Raised {} (.incompleteStage "$sort" .noSortKey) s ∧
          s.name = "$sort" := by
  have hbuild : unsortedFacet.build {} = .error (.incompleteStage "$sort" .noSortKey) := by rfl
  rcases incompleteStage_of_build hbuild with ⟨s, hs, _, hname | ⟨⟨_, hlack⟩, _⟩ | ⟨q, _, hq⟩⟩
  . exact ⟨hbuild, s, hs, hname.symm⟩
  . cases hlack
  . exact absurd hq q.path_ne_incompleteStage

def emptyFactSearch : Stage :=
  .search { form := .facts, operator := some (.compound {}) }

/-- The stage that is named is none of the pipeline. -/
theorem emptyFactSearch_names_search
    : build {} [emptyFactSearch] = .error (.incompleteStage "$search" .noClause) ∧
        Raised {} (.incompleteStage "$search" .noClause) [emptyFactSearch] emptyFactSearch ∧
        stageNames [emptyFactSearch] = ["$searchMeta"] := by
  have hsplit : [emptyFactSearch] = [] ++ emptyFactSearch :: [] := by rfl
  refine ⟨by rfl, .stage hsplit (by simp) ⟨by rfl, ?_⟩, by rfl⟩
  intro p hp
  cases hp

end Pipeline

end Aggregation
