import Aggregation.Pipeline

/-!
This module contains the replacement of properties by field paths, everywhere in a pipeline.
-/

namespace Aggregation

abbrev Replacement := Property → FieldPath

variable (σ : Replacement)

namespace FieldPath

def substitute : FieldPath → FieldPath
  | .name path => .name path
  | .property p => σ p

@[simp]
theorem substitute_property (f : FieldPath) : f.substitute .property = f := by
  cases f <;> rfl

end FieldPath

namespace Criteria

mutual

def substitute : Criteria → Criteria
  | .all parts => .all (substituteAll parts)
  | .any parts => .any (substituteAll parts)
  | .negation part => .negation part.substitute
  | .presence f expected => .presence (f.substitute σ) expected
  | .field f operator value => .field (f.substitute σ) operator value

def substituteAll : List Criteria → List Criteria
  | [] => []
  | c :: cs => c.substitute :: substituteAll cs

end

theorem substituteAll_eq_map (cs : List Criteria)
    : substituteAll σ cs = cs.map (substitute σ) := by
  induction cs with
  | nil => rw [substituteAll, List.map_nil]
  | cons c cs ih => rw [substituteAll, ih, List.map_cons]

mutual

@[simp]
theorem substitute_property (c : Criteria) : c.substitute .property = c := by
  cases c with
  | all parts | any parts =>
    rw [substitute, substituteAll_property parts]
  | negation part =>
    rw [substitute, part.substitute_property]
  | presence f expected =>
    rw [substitute, f.substitute_property]
  | field f operator value =>
    rw [substitute, f.substitute_property]

theorem substituteAll_property (cs : List Criteria) : substituteAll .property cs = cs := by
  cases cs with
  | nil => rw [substituteAll]
  | cons c cs => rw [substituteAll, c.substitute_property, substituteAll_property cs]

end

end Criteria

namespace Search

mutual

def Operator.substitute : Operator → Operator
  | .text query path => .text query (path.substitute σ)
  | .phrase query path => .phrase query (path.substitute σ)
  | .presence path => .presence (path.substitute σ)
  | .equals path value => .equals (path.substitute σ) value
  | .range ⟨path, bounds⟩ => .range ⟨path.substitute σ, bounds⟩
  | .compound ⟨must, mustNot, should, filter, minimum⟩ =>
    .compound ⟨Operator.substituteAll must, Operator.substituteAll mustNot,
      Operator.substituteAll should, Operator.substituteAll filter, minimum⟩

def Operator.substituteAll : List Operator → List Operator
  | [] => []
  | o :: os => o.substitute :: Operator.substituteAll os

end

@[simp]
theorem Operator.isEmpty_substituteAll (os : List Operator)
    : (Operator.substituteAll σ os).isEmpty = os.isEmpty := by
  cases os <;> rw [Operator.substituteAll]
  . rw [List.isEmpty_cons, List.isEmpty_cons]

mutual

@[simp]
theorem Operator.substitute_property (o : Operator) : o.substitute .property = o := by
  cases o with
  | text query path | phrase query path | presence path | equals path value | range r =>
    rw [Operator.substitute, FieldPath.substitute_property]
  | compound c =>
    rw [Operator.substitute]
    rw [Operator.substituteAll_property c.must, Operator.substituteAll_property c.mustNot]
    rw [Operator.substituteAll_property c.should, Operator.substituteAll_property c.filter]

theorem Operator.substituteAll_property (os : List Operator)
    : Operator.substituteAll .property os = os := by
  cases os with
  | nil => rw [Operator.substituteAll]
  | cons o os =>
    rw [Operator.substituteAll, o.substitute_property, Operator.substituteAll_property os]

end

end Search

mutual

def Operand.substitute : Operand → Operand
  | .literal v => .literal v
  | .field path => .field path
  | .property p => .ofPath (σ p)
  | .expression e => .expression e.substitute
  | .reference name => .reference name
  | .instant t => .instant t

def Expression.substitute : Expression → Expression
  | .operand o => .operand o.substitute
  | .list operator first rest => .list operator first.substitute (Operand.substituteAll rest)
  | .pair operator first second => .pair operator first.substitute second.substitute
  | .not o => .not o.substitute
  | .cond condition consequence alternative =>
    .cond condition.substitute consequence.substitute alternative.substitute
  | .ifNull first rest replacement =>
    .ifNull first.substitute (Operand.substituteAll rest) replacement.substitute
  | .switch branches default =>
    .switch (Expression.substituteBranches branches) (Operand.substituteDefault default)
  | .bind bindings body =>
    .bind (Operand.substituteBindings bindings) (Expression.substituteBody body)
  | .literal v => .literal v
  | .metadata keyword => .metadata keyword
  | .criteria c => .criteria (c.substitute σ)
  | .accumulate operator o => .accumulate operator o.substitute
  | .countAll => .countAll

def Operand.substituteAll : List Operand → List Operand
  | [] => []
  | o :: os => o.substitute :: Operand.substituteAll os

def Expression.substituteBranches : List (Expression × Operand) → List (Expression × Operand)
  | [] => []
  | (e, o) :: branches => (e.substitute, o.substitute) :: Expression.substituteBranches branches

def Operand.substituteDefault : Option Operand → Option Operand
  | none => none
  | some o => some o.substitute

def Operand.substituteBindings : List (String × Operand) → List (String × Operand)
  | [] => []
  | (name, o) :: bindings => (name, o.substitute) :: Operand.substituteBindings bindings

def Expression.substituteBody : Option Expression → Option Expression
  | none => none
  | some e => some e.substitute

end

@[simp]
theorem Expression.isEmpty_substituteBranches (branches : List (Expression × Operand))
    : (Expression.substituteBranches σ branches).isEmpty = branches.isEmpty := by
  cases branches <;> rw [Expression.substituteBranches]
  . rw [List.isEmpty_cons, List.isEmpty_cons]

mutual

@[simp]
theorem Operand.substitute_property (o : Operand) : o.substitute .property = o := by
  cases o with
  | expression e => rw [Operand.substitute, e.substitute_property]
  | property p => rw [Operand.substitute, Operand.ofPath]
  | literal | field | reference | instant => rw [Operand.substitute]

@[simp]
theorem Expression.substitute_property (e : Expression) : e.substitute .property = e := by
  cases e with
  | operand o | not o | accumulate operator o =>
    rw [Expression.substitute, o.substitute_property]
  | list operator first rest =>
    rw [Expression.substitute, first.substitute_property, Operand.substituteAll_property rest]
  | pair operator first second =>
    rw [Expression.substitute, first.substitute_property, second.substitute_property]
  | cond condition consequence alternative =>
    rw [Expression.substitute, condition.substitute_property, consequence.substitute_property,
      alternative.substitute_property]
  | ifNull first rest replacement =>
    rw [Expression.substitute, first.substitute_property, Operand.substituteAll_property rest,
      replacement.substitute_property]
  | switch branches default =>
    rw [Expression.substitute, Expression.substituteBranches_property branches,
      Operand.substituteDefault_property default]
  | bind bindings body =>
    rw [Expression.substitute, Operand.substituteBindings_property bindings,
      Expression.substituteBody_property body]
  | criteria c => rw [Expression.substitute, c.substitute_property]
  | literal | metadata | countAll => rw [Expression.substitute]

theorem Operand.substituteAll_property (os : List Operand)
    : Operand.substituteAll .property os = os := by
  cases os with
  | nil => rw [Operand.substituteAll]
  | cons o os =>
    rw [Operand.substituteAll, o.substitute_property, Operand.substituteAll_property os]

theorem Expression.substituteBranches_property (branches : List (Expression × Operand))
    : Expression.substituteBranches .property branches = branches := by
  cases branches with
  | nil => rw [Expression.substituteBranches]
  | cons b branches =>
    rcases b with ⟨e, o⟩
    rw [Expression.substituteBranches, e.substitute_property, o.substitute_property,
      Expression.substituteBranches_property branches]

theorem Operand.substituteDefault_property (default : Option Operand)
    : Operand.substituteDefault .property default = default := by
  cases default with
  | none => rw [Operand.substituteDefault]
  | some o => rw [Operand.substituteDefault, o.substitute_property]

theorem Operand.substituteBindings_property (bindings : List (String × Operand))
    : Operand.substituteBindings .property bindings = bindings := by
  cases bindings with
  | nil => rw [Operand.substituteBindings]
  | cons b bindings =>
    rcases b with ⟨name, o⟩
    rw [Operand.substituteBindings, o.substitute_property,
      Operand.substituteBindings_property bindings]

theorem Expression.substituteBody_property (body : Option Expression)
    : Expression.substituteBody .property body = body := by
  cases body with
  | none => rw [Expression.substituteBody]
  | some e => rw [Expression.substituteBody, e.substitute_property]

end

/-!
The stages, beginning with what stands in their bodies.
-/

def Projection.substitute : Projection → Projection
  | .keep f => .keep (f.substitute σ)
  | .drop f => .drop (f.substitute σ)
  | .computed f o => .computed (f.substitute σ) (o.substitute σ)

def Project.substitute (p : Project) : Project where
  projections := p.projections.map (Projection.substitute σ)

def Assign.substitute (a : Assign) : Assign where
  form := a.form
  assignments := a.assignments.map fun (f, o) => (f.substitute σ, o.substitute σ)

@[simp]
theorem Assign.form_substitute (a : Assign) : (a.substitute σ).form = a.form := by
  rfl

def Group.substitute (g : Group) : Group where
  key := g.key.map (Operand.substitute σ)
  accumulators := g.accumulators.map fun (name, e) => (name, e.substitute σ)

def SortBy.substitute (s : SortBy) : SortBy where
  keys := s.keys.map fun (f, order) => (f.substitute σ, order)

def Lookup.substitute (inner : Option Pipeline) (l : Lookup Stage) : Lookup Stage where
  source := l.source
  localField := l.localField.map (FieldPath.substitute σ)
  foreignField := l.foreignField.map (FieldPath.substitute σ)
  bindings := Operand.substituteBindings σ l.bindings
  pipeline := inner
  output := l.output.map (FieldPath.substitute σ)

def Unwind.substitute (u : Unwind) : Unwind where
  path := u.path.map (FieldPath.substitute σ)
  arrayIndex := u.arrayIndex.map (FieldPath.substitute σ)
  preserveEmpty := u.preserveEmpty

def Search.substitute (s : Search) : Search :=
  { s with operator := s.operator.map (Search.Operator.substitute σ) }

@[simp]
theorem Search.form_substitute (s : Search) : (s.substitute σ).form = s.form := by
  rfl

namespace Stage

mutual

def substitute : Stage → Stage
  | .project p => .project (p.substitute σ)
  | .assign a => .assign (a.substitute σ)
  | .group g => .group (g.substitute σ)
  | .sort s => .sort (s.substitute σ)
  | .lookup l@⟨_, _, _, _, pipeline, _⟩ => .lookup (l.substitute σ (substituteInner pipeline))
  | .unwind u => .unwind (u.substitute σ)
  | .unionWith ⟨collection, pipeline⟩ => .unionWith ⟨collection, substituteInner pipeline⟩
  | .facet ⟨facets⟩ => .facet ⟨substituteFacets facets⟩
  | .search s => .search (s.substitute σ)
  | .count field => .count field
  | .filter c => .filter (c.substitute σ)
  | .filterExpression e => .filterExpression (e.substitute σ)
  | .limit n => .limit n
  | .skip n => .skip n
  | .sample n => .sample n
  | .unset fields => .unset (fields.map (FieldPath.substitute σ))
  | .replaceRoot o => .replaceRoot (o.substitute σ)
  | .replaceWith o => .replaceWith (o.substitute σ)
  | .sortByCount o => .sortByCount (o.substitute σ)
  | .documents ds => .documents ds
  | .raw d => .raw d
termination_by structural s => s

def substituteAll : List Stage → List Stage
  | [] => []
  | s :: ss => s.substitute :: substituteAll ss
termination_by structural ss => ss

def substituteInner : Option (List Stage) → Option (List Stage)
  | none => none
  | some stages => some (substituteAll stages)
termination_by structural stages => stages

def substituteFacets : List (String × List Stage) → List (String × List Stage)
  | [] => []
  | (name, stages) :: facets => (name, substituteAll stages) :: substituteFacets facets
termination_by structural facets => facets

end

@[simp]
theorem isEmpty_substituteFacets (facets : List (String × Pipeline))
    : (substituteFacets σ facets).isEmpty = facets.isEmpty := by
  cases facets <;> rw [substituteFacets]
  . rw [List.isEmpty_cons, List.isEmpty_cons]

end Stage

def Pipeline.substitute (p : Pipeline) : Pipeline :=
  Stage.substituteAll σ p

/-!
The pipeline in which each property takes its own place is the same.
-/

@[simp]
theorem Projection.substitute_property (q : Projection) : q.substitute .property = q := by
  cases q <;> simp [substitute]

theorem Project.substitute_property (p : Project) : p.substitute .property = p := by
  rw [substitute, List.map_id'' Projection.substitute_property]

theorem Assign.substitute_property (a : Assign) : a.substitute .property = a := by
  simp [substitute]

theorem Group.substitute_property (g : Group) : g.substitute .property = g := by
  rcases g with ⟨key, accumulators⟩
  cases key <;> simp [substitute]

theorem SortBy.substitute_property (s : SortBy) : s.substitute .property = s := by
  simp [substitute]

theorem Lookup.substitute_property (l : Lookup Stage) : l.substitute .property l.pipeline = l := by
  rcases l with ⟨source, localField, foreignField, bindings, pipeline, output⟩
  rw [substitute, Operand.substituteBindings_property]
  cases localField <;> cases foreignField <;> cases output <;> simp

theorem Unwind.substitute_property (u : Unwind) : u.substitute .property = u := by
  rcases u with ⟨path, arrayIndex, preserveEmpty⟩
  cases path <;> cases arrayIndex <;> simp [substitute]

theorem Search.substitute_property (s : Search) : s.substitute .property = s := by
  rcases s with ⟨form, index, operator, count, returnStoredSource⟩
  cases operator <;> simp [substitute]

namespace Stage

mutual

theorem substitute_property (s : Stage) : s.substitute .property = s := by
  cases s with
  | project p => rw [substitute, p.substitute_property]
  | assign a => rw [substitute, a.substitute_property]
  | group g => rw [substitute, g.substitute_property]
  | sort s => rw [substitute, s.substitute_property]
  | lookup l =>
    rw [substitute, substituteInner_property l.pipeline, l.substitute_property]
  | unwind u => rw [substitute, u.substitute_property]
  | unionWith u => rw [substitute, substituteInner_property u.pipeline]
  | facet f => rw [substitute, substituteFacets_property f.facets]
  | search s => rw [substitute, s.substitute_property]
  | filter c => rw [substitute, c.substitute_property]
  | filterExpression e => rw [substitute, e.substitute_property]
  | unset fields => rw [substitute, List.map_id'' FieldPath.substitute_property]
  | replaceRoot o | replaceWith o | sortByCount o => rw [substitute, o.substitute_property]
  | count | limit | skip | sample | documents | raw => rw [substitute]

theorem substituteAll_property (ss : List Stage) : substituteAll .property ss = ss := by
  cases ss with
  | nil => rw [substituteAll]
  | cons s ss => rw [substituteAll, s.substitute_property, substituteAll_property ss]

theorem substituteInner_property (stages : Option (List Stage))
    : substituteInner .property stages = stages := by
  cases stages with
  | none => rw [substituteInner]
  | some stages => rw [substituteInner, substituteAll_property stages]

theorem substituteFacets_property (facets : List (String × List Stage))
    : substituteFacets .property facets = facets := by
  cases facets with
  | nil => rw [substituteFacets]
  | cons facet facets =>
    rcases facet with ⟨name, stages⟩
    rw [substituteFacets, substituteAll_property stages, substituteFacets_property facets]

end

end Stage

@[simp]
theorem Pipeline.substitute_property (p : Pipeline) : p.substitute .property = p := by
  rw [substitute, Stage.substituteAll_property]

end Aggregation
