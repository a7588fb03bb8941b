import Aggregation.Expression.Binding
import Aggregation.Proofs.Document
import Aggregation.Proofs.Stage.Basic
import Aggregation.Proofs.Stage.Projection
import Aggregation.Proofs.Stage.Scope

/-!
This module contains what is declared name by name and written as one document: the fields of three
stages, the pipelines of a fourth, and the variables of bindings and joins. A name keeps the place
of its first declaration and holds the value of its last one.
-/

namespace Aggregation

variable {ctx : Context}

structure Declaration where
  name : Context → Except Error String
  value : Context → Except Error Bson

namespace Declaration

def ofPath (field : FieldPath) (value : Context → Except Error Bson) : Declaration where
  name ctx := field.resolve ctx
  value := value

/-- Names of pipelines and variables are written as they are. -/
def ofName (name : String) (value : Context → Except Error Bson) : Declaration where
  name _ := return name
  value := value

def Resolves (ctx : Context) (c : Declaration) (key : String) (v : Bson) : Prop :=
  c.name ctx = .ok key ∧ c.value ctx = .ok v

def isFor (ctx : Context) (key : String) (c : Declaration) : Bool :=
  c.name ctx = .ok key

def last? (ctx : Context) (key : String) (cs : List Declaration) : Option Declaration :=
  cs.reverse.find? (isFor ctx key)

/--
The document has the place of the first declaration and the value of the last one for each name.
Two declarations share an entry if they resolve to the same name.
-/
structure Written (ctx : Context) (cs : List Declaration) (d : Document) : Prop where
  keys : ∃ names, cs.mapM (fun c => c.name ctx) = .ok names ∧ d.keys = names.eraseDups
  nodup : d.keys.Nodup
  last (key : String) : Option.Rel (fun c v => c.value ctx = .ok v) (last? ctx key cs) (d.get? key)
  collision {c c' : Declaration} (h : c ∈ cs) (h' : c' ∈ cs)
    : (∃ e ∈ d, c.name ctx = .ok e.1 ∧ c'.name ctx = .ok e.1) ↔ c.name ctx = c'.name ctx

def evaluate (ctx : Context) (c : Declaration) : Except Error (String × Bson) := do
  let key ← c.name ctx
  return (key, ← c.value ctx)

theorem evaluate_eq_ok {c : Declaration} {e : String × Bson}
    : c.evaluate ctx = .ok e ↔ c.Resolves ctx e.1 e.2 := by
  rcases e with ⟨key, v⟩
  simp [evaluate, Resolves]

theorem mapM_evaluate_eq_ok {cs : List Declaration} {es : List (String × Bson)}
    : cs.mapM (evaluate ctx) = .ok es ↔
        List.Forall₂ (fun c e => c.Resolves ctx e.1 e.2) cs es := by
  rw [Except.mapM_eq_ok]
  simp only [evaluate_eq_ok]

theorem written_of_mapM {cs : List Declaration} {es : List (String × Bson)}
    (h : cs.mapM (evaluate ctx) = .ok es) : Written ctx cs (.ofEntries es) := by
  rw [mapM_evaluate_eq_ok] at h
  have hnames : cs.mapM (fun c => c.name ctx) = .ok (Document.keys es) := by
    rw [Except.mapM_eq_ok, Document.keys, List.forall₂_map_right_iff]
    apply h.imp
    intro c e hc
    exact hc.left
  constructor
  . exact ⟨_, hnames, Document.keys_ofEntries es⟩
  . apply Document.nodup_keys_ofEntries
  . intro key
    apply Document.rel_find?_ofEntries
    apply h.imp
    intro c e hc
    exact ⟨by simp [isFor, hc.left, eq_comm], hc.right⟩
  . intro c c' hc _
    constructor
    . rintro ⟨e, _, hname, hname'⟩
      rw [hname, hname']
    . intro hname
      rcases Except.exists_mem_of_mapM hnames hc with ⟨key, hmem, hkey⟩
      rw [← Document.mem_keys_ofEntries, Document.keys, List.mem_map] at hmem
      rcases hmem with ⟨e, he, rfl⟩
      exact ⟨e, he, hkey, by rw [← hname, hkey]⟩

theorem Written.get?_of_last {before after : List Declaration} {c : Declaration} {d : Document}
    (h : Written ctx (before ++ c :: after) d) (hafter : ∀ a ∈ after, a.name ctx ≠ c.name ctx)
    : ∃ key v, c.Resolves ctx key v ∧ d.get? key = some v := by
  rcases h.keys with ⟨names, hnames, _⟩
  rcases Except.exists_mem_of_mapM hnames (List.mem_append_cons_self) with ⟨key, _, hkey⟩
  have hlast : last? ctx key (before ++ c :: after) = some c := by
    have hnone : after.reverse.find? (isFor ctx key) = none := by
      rw [hkey] at hafter
      simpa [isFor] using hafter
    simp [last?, List.find?_append, hnone, isFor, hkey]
  have hrel := h.last key
  rw [hlast] at hrel
  cases hget : d.get? key with
  | none =>
    rw [hget] at hrel
    cases hrel
  | some v =>
    rw [hget] at hrel
    cases hrel with
    | some hv => exact ⟨key, v, ⟨hkey, hv⟩, hget⟩

def ofBinding (b : String × Operand) : Declaration :=
  .ofName b.1 b.2.resolve

theorem resolveBindings_eq_mapM (bindings : List (String × Operand))
    : Operand.resolveBindings ctx bindings = (bindings.map ofBinding).mapM (evaluate ctx) := by
  induction bindings with
  | nil => simp [Operand.resolveBindings]
  | cons b bindings ih =>
    rcases b with ⟨name, o⟩
    simp [Operand.resolveBindings, ih, evaluate, ofBinding, ofName]

end Declaration

open Builder (lastCall?)
open Declaration (evaluate)

namespace Project

def Clause.declaration : Clause → Declaration
  | .keep f => .ofPath f fun _ => return (.int32 1)
  | .drop f => .ofPath f fun _ => return (.int32 0)
  | .dropIdentity => .ofName identityField fun _ => return (.int32 0)
  | .computed o f => .ofPath f fun ctx => (source o).resolve ctx
  | .expression f e => .ofPath f fun ctx => e.resolve ctx
  | .literal f v => .ofPath f fun _ => return (.single "$literal" v)

theorem entry_projection (c : Clause) : entry ctx (projection c) = evaluate ctx c.declaration := by
  cases c with
  | _ => rfl

theorem body_ofClauses {clauses : List Clause} (h : clauses ≠ [])
    : (ofClauses clauses).body ctx =
        .ofEntries <$> (clauses.map Clause.declaration).mapM (evaluate ctx) := by
  have hempty : (clauses.map projection).isEmpty = false := by simpa using h
  have hentry : entry ctx ∘ projection = evaluate ctx ∘ Clause.declaration := by
    funext c
    apply entry_projection
  unfold body
  rw [projections_ofClauses, hempty, List.mapM_map, List.mapM_map, hentry]
  simp

end Project

namespace Assign

def Clause.declaration : Clause → Declaration
  | .set f o => .ofPath f fun ctx => o.resolve ctx
  | .value f v => .ofPath f fun _ => return v
  | .copy f source => .ofPath f fun ctx => (Operand.ofPath source).resolve ctx
  | .expression f e => .ofPath f fun ctx => e.resolve ctx

theorem entry_assignment (c : Clause) : entry ctx (assignment c) = evaluate ctx c.declaration := by
  cases c <;> rfl

theorem assignments_ofClauses (form : AssignForm) (clauses : List Clause)
    : (ofClauses form clauses).assignments = clauses.map assignment := by
  unfold ofClauses
  rw [List.map_eq_flatMap]
  apply Builder.foldl_append assignments
  intro a c
  rfl

theorem form_ofClauses (form : AssignForm) (clauses : List Clause)
    : (ofClauses form clauses).form = form := by
  have hfold (a : Assign) : (clauses.foldl declare a).form = a.form := by
    induction clauses generalizing a with
    | nil => rfl
    | cons c clauses ih => rw [List.foldl_cons, ih, declare]
  apply hfold

theorem body_ofClauses {form : AssignForm} {clauses : List Clause} (h : clauses ≠ [])
    : (ofClauses form clauses).body ctx =
        .ofEntries <$> (clauses.map Clause.declaration).mapM (evaluate ctx) := by
  have hempty : (clauses.map assignment).isEmpty = false := by simpa using h
  have hentry : entry ctx ∘ assignment = evaluate ctx ∘ Clause.declaration := by
    funext c
    apply entry_assignment
  unfold body
  rw [assignments_ofClauses, hempty, List.mapM_map, List.mapM_map, hentry]
  simp

end Assign

namespace SortBy

def declaration (key : FieldPath × SortOrder) : Declaration :=
  .ofPath key.1 fun _ => return key.2.toBson

theorem keys_ofKeys (ks : List (FieldPath × SortOrder)) : (ofKeys ks).keys = ks := by
  conv_rhs => rw [← List.flatMap_singleton' ks]
  unfold ofKeys
  apply Builder.foldl_append keys
  intro s k
  rfl

theorem body_ofKeys {ks : List (FieldPath × SortOrder)} (h : ks ≠ [])
    : (ofKeys ks).body ctx = .ofEntries <$> (ks.map declaration).mapM (evaluate ctx) := by
  have hempty : ks.isEmpty = false := by simpa using h
  have hentry : entry ctx = evaluate ctx ∘ declaration := by rfl
  unfold body
  rw [keys_ofKeys, hempty, List.mapM_map, hentry]
  simp

end SortBy

namespace Facet

def declaration (facet : String × Pipeline) : Declaration :=
  .ofName facet.1 fun ctx => do return .array ((← Stage.resolveAll ctx facet.2).map .document)

theorem facets_ofFacets (fs : List (String × Pipeline)) : (ofFacets fs).facets = fs := by
  conv_rhs => rw [← List.flatMap_singleton' fs]
  unfold ofFacets
  apply Builder.foldl_append facets
  intro s f
  rfl

theorem resolveFacets_eq (fs : List (String × Pipeline))
    : Stage.resolveFacets ctx fs = (fs.map declaration).mapM (evaluate ctx) := by
  have hentry : Stage.resolveEntry ctx = evaluate ctx ∘ declaration := by
    funext f
    simp [Stage.resolveEntry, declaration, evaluate, Declaration.ofName]
  rw [Stage.resolveFacets_eq_mapM, List.mapM_map, hentry]

end Facet

def Binding.Clause.binding? : Clause → Option (String × Operand)
  | .bind name o => some (name, o)
  | .bindExpression name e => some (name, .expression e)
  | .body _ => none

theorem Binding.bindings_ofClauses (clauses : List Clause)
    : (ofClauses clauses).bindings = clauses.filterMap Clause.binding? := by
  unfold ofClauses
  rw [List.filterMap_eq_flatMap_toList]
  apply Builder.foldl_append bindings
  intro b c
  cases c <;> simp [declare, Clause.binding?]

def Binding.Clause.body? : Clause → Option Expression
  | .body e => some e
  | .bind .. | .bindExpression .. => none

theorem Binding.body_ofClauses (clauses : List Clause)
    : (ofClauses clauses).body = lastCall? Clause.body? clauses := by
  unfold ofClauses
  apply Builder.foldl_lastCall? body
  . intro b c
    cases c <;> rfl
  . rfl

def Lookup.Clause.binding? : Clause σ → Option (String × Operand)
  | .bind name o => some (name, o)
  | .bindExpression name e => some (name, .expression e)
  | .source _ | .localField _ | .foreignField _ | .pipeline _ | .output _ => none

theorem Lookup.bindings_ofClauses (clauses : List (Clause σ))
    : (ofClauses clauses).bindings = clauses.filterMap Clause.binding? := by
  unfold ofClauses
  rw [List.filterMap_eq_flatMap_toList]
  apply Builder.foldl_append bindings
  intro l c
  cases c <;> simp [declare, Clause.binding?]

namespace Lookup

def Clause.localField? : Clause σ → Option FieldPath
  | .localField f => some f
  | _ => none

def Clause.foreignField? : Clause σ → Option FieldPath
  | .foreignField f => some f
  | _ => none

def Clause.pipeline? : Clause σ → Option (List σ)
  | .pipeline stages => some stages
  | _ => none

def Clause.output? : Clause σ → Option FieldPath
  | .output f => some f
  | _ => none

variable (clauses : List (Clause σ))

theorem localField_ofClauses
    : (ofClauses clauses).localField = lastCall? Clause.localField? clauses := by
  unfold ofClauses
  apply Builder.foldl_lastCall? localField
  . intro l c
    cases c <;> rfl
  . rfl

theorem foreignField_ofClauses
    : (ofClauses clauses).foreignField = lastCall? Clause.foreignField? clauses := by
  unfold ofClauses
  apply Builder.foldl_lastCall? foreignField
  . intro l c
    cases c <;> rfl
  . rfl

theorem pipeline_ofClauses
    : (ofClauses clauses).pipeline = lastCall? Clause.pipeline? clauses := by
  unfold ofClauses
  apply Builder.foldl_lastCall? pipeline
  . intro l c
    cases c <;> rfl
  . rfl

theorem output_ofClauses : (ofClauses clauses).output = lastCall? Clause.output? clauses := by
  unfold ofClauses
  apply Builder.foldl_lastCall? output
  . intro l c
    cases c <;> rfl
  . rfl

end Lookup

/--
What writes its declarations as a document, or as a document inside of one.
-/
inductive Declarer where
  | project (clauses : List Project.Clause)
  | assign (form : AssignForm) (clauses : List Assign.Clause)
  | sort (keys : List (FieldPath × SortOrder))
  | facet (facets : List (String × Pipeline))
  | binding (clauses : List Binding.Clause)
  | lookup (clauses : List (Lookup.Clause Stage))

namespace Declarer

def declarations : Declarer → List Declaration
  | .project cs => cs.map Project.Clause.declaration
  | .assign _ cs => cs.map Assign.Clause.declaration
  | .sort ks => ks.map SortBy.declaration
  | .facet fs => fs.map Facet.declaration
  | .binding cs => (cs.filterMap Binding.Clause.binding?).map .ofBinding
  | .lookup cs => (cs.filterMap Lookup.Clause.binding?).map .ofBinding

def resolve (ctx : Context) : Declarer → Except Error (Option Bson)
  | .project cs => do return (← (Stage.project (.ofClauses cs)).resolve ctx).map .document
  | .assign form cs => do return (← (Stage.assign (.ofClauses form cs)).resolve ctx).map .document
  | .sort ks => do return (← (Stage.sort (.ofKeys ks)).resolve ctx).map .document
  | .facet fs => do return (← (Stage.facet (.ofFacets fs)).resolve ctx).map .document
  | .binding cs => do return some (← (Binding.ofClauses cs).toExpression.resolve ctx)
  | .lookup cs => do return (← (Stage.lookup (.ofClauses cs)).resolve ctx).map .document

/--
The document of the declarations in what is written. A join leaves it out if it is empty.
-/
inductive Emits : Declarer → Bson → Document → Prop where
  | project {cs : List Project.Clause} {d : Document}
    : Emits (.project cs) (.single "$project" (.document d)) d
  | assign {form : AssignForm} {cs : List Assign.Clause} {d : Document}
    : Emits (.assign form cs) (.single form.name (.document d)) d
  | sort {ks : List (FieldPath × SortOrder)} {d : Document}
    : Emits (.sort ks) (.single "$sort" (.document d)) d
  | facet {fs : List (String × Pipeline)} {d : Document}
    : Emits (.facet fs) (.single "$facet" (.document d)) d
  | binding {cs : List Binding.Clause} {d : Document} {body : Bson}
    : Emits (.binding cs) (.single "$let" (.document [("vars", .document d), ("in", body)])) d
  | lookup {cs : List (Lookup.Clause Stage)} {body d : Document}
      (h : (body.get? "let").getD (.document []) = .document d)
    : Emits (.lookup cs) (.single "$lookup" (.document body)) d

/--
Nothing is wrong with what is looked at before the declarations. The first four have to have some.
-/
def Reached (ctx : Context) : Declarer → Prop
  | .project cs => cs ≠ []
  | .assign _ cs => cs ≠ []
  | .sort ks => ks ≠ []
  | .facet fs => fs ≠ []
  | .binding _ => True
  | .lookup cs =>
    (lastCall? Lookup.Clause.output? cs).isSome ∧
      (∃ path, (lastCall? Lookup.Clause.localField? cs).mapM (FieldPath.resolve ctx) = .ok path) ∧
      ∃ path, (lastCall? Lookup.Clause.foreignField? cs).mapM (FieldPath.resolve ctx) = .ok path

def Completes (ctx : Context) : Declarer → Prop
  | .project _ | .assign .. | .sort _ | .facet _ => True
  | .binding cs => ∃ v, Expression.resolveBody ctx (lastCall? Binding.Clause.body? cs) = .ok v
  | .lookup cs =>
    (∃ es, Stage.resolveInner ctx (lastCall? Lookup.Clause.pipeline? cs) = .ok es) ∧
      ∃ path, (lastCall? Lookup.Clause.output? cs).mapM (FieldPath.resolve ctx) = .ok path

/--
The declarations are evaluated, and what is done with their entries writes them as a document.
-/
structure Continues (ctx : Context) (s : Declarer)
    (rest : List (String × Bson) → Except Error (Option Bson)) : Prop where
  resolve_eq : s.resolve ctx = s.declarations.mapM (evaluate ctx) >>= rest
  emits {es : List (String × Bson)} {o : Option Bson} (h : rest es = .ok o)
    : ∃ v, o = some v ∧ s.Emits v (.ofEntries es)
  completes (es : List (String × Bson)) : (∃ o, rest es = .ok o) ↔ s.Completes ctx

theorem continues_pure {s : Declarer} {stage : String}
    (hresolve : s.resolve ctx =
      (fun es => some (.single stage (.ofEntries es))) <$> s.declarations.mapM (evaluate ctx))
    (hemits : ∀ d, s.Emits (.single stage (.document d)) d) (hcompletes : s.Completes ctx)
    : s.Continues ctx fun es => return some (.single stage (.ofEntries es)) := by
  constructor
  . rw [hresolve, map_eq_pure_bind]
  . rintro es _ ⟨⟩
    exact ⟨_, rfl, hemits _⟩
  . simp [hcompletes]

theorem continues_binding (cs : List Binding.Clause)
    : Continues ctx (.binding cs) fun es => do
        let body ← Expression.resolveBody ctx (lastCall? Binding.Clause.body? cs)
        return some (.single "$let" (.document [("vars", .ofEntries es), ("in", body)])) := by
  constructor
  . simp [resolve, declarations, Binding.toExpression, Expression.resolve,
      Binding.bindings_ofClauses, Binding.body_ofClauses, Declaration.resolveBindings_eq_mapM]
  . intro es o h
    simp only [Except.bind_eq_ok, Except.pure_eq_ok] at h
    rcases h with ⟨body, _, rfl⟩
    exact ⟨_, rfl, .binding⟩
  . simp [Completes]

theorem continues_lookup {cs : List (Lookup.Clause Stage)} {output : FieldPath}
    {localField foreignField : Option String}
    (houtput : lastCall? Lookup.Clause.output? cs = some output)
    (hlocal : (lastCall? Lookup.Clause.localField? cs).mapM (FieldPath.resolve ctx) =
      .ok localField)
    (hforeign : (lastCall? Lookup.Clause.foreignField? cs).mapM (FieldPath.resolve ctx) =
      .ok foreignField)
    : Continues ctx (.lookup cs) fun es => do
        let pipeline ← Stage.resolveInner ctx (lastCall? Lookup.Clause.pipeline? cs)
        let output ← output.resolve ctx
        return some (.single "$lookup" (.document
          (((Lookup.ofClauses cs).source.toList.map fun s => ("from", .string s)) ++
            (localField.toList.map fun s => ("localField", .string s)) ++
            (foreignField.toList.map fun s => ("foreignField", .string s)) ++
            Lookup.letEntry es ++ pipeline ++ [("as", .string output)]))) := by
  constructor
  . change _ = pure _ at hlocal hforeign
    rw [resolve, declarations, Stage.resolve_lookup, Lookup.body, Lookup.output_ofClauses]
    rw [Lookup.localField_ofClauses, Lookup.foreignField_ofClauses, Lookup.pipeline_ofClauses]
    rw [houtput, hlocal, hforeign, Lookup.bindings_ofClauses]
    simp [Declaration.resolveBindings_eq_mapM, Bson.single]
  . intro es o h
    simp only [Except.bind_eq_ok, Except.pure_eq_ok] at h
    rcases h with ⟨pipeline, hpipeline, output, _, rfl⟩
    refine ⟨_, rfl, .lookup ?_⟩
    -- No other entry of the stage has the key of the variables.
    rw [← Binder.get?_letEntry_let]
    simp [Binder.get?_resolveInner_let hpipeline]
  . simp [Completes, houtput]

theorem exists_rest {s : Declarer} (h : s.Reached ctx) : ∃ rest, s.Continues ctx rest := by
  cases s with
  | project cs =>
    refine ⟨_, continues_pure ?_ (fun _ => .project) trivial⟩
    simp [resolve, declarations, Stage.resolve, Project.body_ofClauses h, Bson.single,
      Bson.ofEntries]
  | assign form cs =>
    refine ⟨_, continues_pure ?_ (fun _ => .assign) trivial⟩
    simp [resolve, declarations, Stage.resolve, Assign.body_ofClauses h, Assign.form_ofClauses,
      Bson.single, Bson.ofEntries]
  | sort ks =>
    refine ⟨_, continues_pure ?_ (fun _ => .sort) trivial⟩
    simp [resolve, declarations, Stage.resolve, SortBy.body_ofKeys h, Bson.single, Bson.ofEntries]
  | facet fs =>
    refine ⟨_, continues_pure ?_ (fun _ => .facet) trivial⟩
    have hempty : fs.isEmpty = false := by simpa [Reached] using h
    simp [resolve, declarations, Stage.resolve, Facet.facets_ofFacets, hempty,
      Facet.resolveFacets_eq, Bson.single, Bson.ofEntries]
  | binding cs => exact ⟨_, continues_binding cs⟩
  | lookup cs =>
    rcases h with ⟨houtput, ⟨localField, hlocal⟩, foreignField, hforeign⟩
    rw [Option.isSome_iff_exists] at houtput
    rcases houtput with ⟨output, houtput⟩
    exact ⟨_, continues_lookup houtput hlocal hforeign⟩

theorem reached_of_resolve {s : Declarer} {o : Option Bson} (h : s.resolve ctx = .ok o)
    : s.Reached ctx := by
  cases s with
  | project | assign | sort | facet =>
    rintro rfl
    cases h
  | binding cs => trivial
  | lookup cs =>
    simp only [resolve, Stage.resolve_lookup, Except.bind_eq_ok] at h
    rcases h with ⟨_, ⟨body, hbody, _⟩, _⟩
    rw [Lookup.body, Lookup.output_ofClauses, Lookup.localField_ofClauses,
      Lookup.foreignField_ofClauses] at hbody
    split at hbody
    . simp at hbody
    . next output houtput =>
      simp only [Except.bind_eq_ok] at hbody
      rcases hbody with ⟨localField, hlocal, foreignField, hforeign, _⟩
      exact ⟨by simp [houtput], ⟨localField, hlocal⟩, foreignField, hforeign⟩

theorem written_of_resolve {s : Declarer} {o : Option Bson} (h : s.resolve ctx = .ok o)
    : ∃ v d, o = some v ∧ s.Emits v d ∧ Declaration.Written ctx s.declarations d := by
  rcases exists_rest (reached_of_resolve h) with ⟨rest, hrest⟩
  rw [hrest.resolve_eq, Except.bind_eq_ok] at h
  rcases h with ⟨es, hes, ho⟩
  rcases hrest.emits ho with ⟨v, rfl, hv⟩
  exact ⟨v, _, rfl, hv, Declaration.written_of_mapM hes⟩

/-- The first local field could not be resolved, but it is not the last one. -/
def joined : Declarer :=
  .lookup [
    .localField (.name ""),
    .output (.name "stock"),
    .bind "item" (.field "sku"),
    .bind "least" (.literal (.int32 1)),
    .localField (.name "sku"),
    .bindExpression "item" (.not (.field "sold")),
    .pipeline [.limit 5],
    .output (.name "found")]

end Declarer

end Aggregation
