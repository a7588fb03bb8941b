import Aggregation.Proofs.Document
import Aggregation.Proofs.Except
import Aggregation.Proofs.Search.Declaration
import Aggregation.Search.Resolve
import Mathlib.Tactic.Choose

/-!
This module contains the way back from the documents of search operators to the operators. Nothing
that was declared is lost, except that paths are given by their names, and an operator is written
exactly if each path in it resolves and each compound in it has a clause.
-/

namespace Aggregation

namespace Search

open Compound (Role)

def Bound.ofName? (name : String) : Option Bound :=
  [.gt, .gte, .lt, .lte].find? fun (b : Bound) => b.name = name

def Compound.Role.ofName? (name : String) : Option Role :=
  [.must, .mustNot, .should, .filter].find? fun (role : Role) => role.name = name

def Compound.withList (c : Compound σ) (os : List σ) : Role → Compound σ
  | .must => { c with must := os }
  | .mustNot => { c with mustNot := os }
  | .should => { c with should := os }
  | .filter => { c with filter := os }

namespace Operator

def readBounds (entries : List (String × Bson)) : Option (List (Bound × Bson)) :=
  entries.mapM fun (key, v) => do return (← Bound.ofName? key, v)

mutual

def read : Bson → Option Operator
  | .document [("text", .document [("query", .string query), ("path", .string path)])] =>
    return .text query (.name path)
  | .document [("phrase", .document [("query", .string query), ("path", .string path)])] =>
    return .phrase query (.name path)
  | .document [("exists", .document [("path", .string path)])] => return .presence (.name path)
  | .document [("equals", .document [("path", .string path), ("value", v)])] =>
    return .equals (.name path) v
  | .document [("range", .document (("path", .string path) :: bounds))] => do
    return .range ⟨.name path, ← readBounds bounds⟩
  | .document [("compound", .document entries)] => do
    return .compound (← readCompound entries)
  | _ => none

/-- A list of clauses that is there is not empty. -/
def readCompound : List (String × Bson) → Option (Compound Operator)
  | [] => return {}
  | [("minimumShouldMatch", .int32 count)] => return { minimumShouldMatch := some count }
  | (key, .array items) :: entries =>
    if items.isEmpty then
      none
    else do
      let role ← Role.ofName? key
      return (← readCompound entries).withList (← readAll items) role
  | _ => none

def readAll : List Bson → Option (List Operator)
  | [] => return []
  | v :: vs => do return (← read v) :: (← readAll vs)

end

end Operator

/-!
What is read from the parts of a document.
-/

@[simp]
theorem Bound.ofName?_name (b : Bound) : ofName? b.name = some b := by
  cases b <;> decide

@[simp]
theorem Compound.Role.ofName?_name (role : Role) : ofName? role.name = some role := by
  cases role <;> rfl

theorem Compound.withList_list {c : Compound σ} {role : Role} (h : c.list role = [])
    : c.withList [] role = c := by
  cases role <;> simp only [list] at h <;> simp only [withList, ← h]

namespace Operator

theorem readBounds_names (bounds : List (Bound × Bson))
    : readBounds (bounds.map fun (b, v) => (b.name, v)) = some bounds := by
  unfold readBounds
  induction bounds with
  | nil => rfl
  | cons b bounds ih =>
    rcases b with ⟨b, v⟩
    rw [List.map_cons, List.mapM_cons, ih]
    simp only [Bound.ofName?_name]
    rfl

theorem read_range (name : String) (bounds : List (Bound × Bson))
    : read (.document (Document.single "range" (.document
        (("path", .string name) :: bounds.map fun (b, v) => (b.name, v))))) =
          some (.range ⟨.name name, bounds⟩) := by
  rw [Document.single, read, readBounds_names]
  rfl

theorem readCompound_clauses (role : Role) {vs : List Bson} {os : List Operator}
    {entries : List (String × Bson)} {c : Compound Operator} (hvs : readAll vs = some os)
    (hentries : readCompound entries = some c) (hlist : c.list role = [])
    : readCompound (clauses role.name vs ++ entries) = some (c.withList os role) := by
  cases vs with
  | nil =>
    rw [readAll] at hvs
    cases hvs
    rw [Compound.withList_list hlist]
    exact hentries
  | cons v vs =>
    rw [clauses, List.isEmpty_cons, if_neg Bool.false_ne_true, List.singleton_append, readCompound]
    rw [List.isEmpty_cons, if_neg Bool.false_ne_true, Role.ofName?_name, hvs, hentries]
    rfl

/-- The entries of a compound, from the values of its clauses. -/
def entries (values : Role → List Bson) (minimum : Option Int32) : List (String × Bson) :=
  clauses "must" (values .must) ++ clauses "mustNot" (values .mustNot) ++
    clauses "should" (values .should) ++ clauses "filter" (values .filter) ++
    minimum.toList.map fun count => ("minimumShouldMatch", Bson.int32 count)

theorem readCompound_entries {values : Role → List Bson} {operators : Role → List Operator}
    (h : ∀ role, readAll (values role) = some (operators role)) (minimum : Option Int32)
    : readCompound (entries values minimum) =
        some ⟨operators .must, operators .mustNot, operators .should, operators .filter,
          minimum⟩ := by
  have hminimum : readCompound (minimum.toList.map fun count =>
      ("minimumShouldMatch", Bson.int32 count)) = some { minimumShouldMatch := minimum } := by
    cases minimum <;> rfl
  unfold entries
  simp only [List.append_assoc]
  have hfilter := readCompound_clauses .filter (h .filter) hminimum rfl
  have hshould := readCompound_clauses .should (h .should) hfilter rfl
  have hmustNot := readCompound_clauses .mustNot (h .mustNot) hshould rfl
  exact readCompound_clauses .must (h .must) hmustNot rfl

end Operator

/-!
What is written of an operator.
-/

variable {ctx : Context}

theorem Operator.resolveAll_eq_ok {os : List Operator} {vs : List Bson}
    : resolveAll ctx os = .ok vs ↔
        List.Forall₂ (fun o v => ∃ d, o.resolve ctx = .ok d ∧ .document d = v) os vs := by
  induction os generalizing vs with
  | nil => cases vs <;> simp [resolveAll]
  | cons o os ih =>
    rw [resolveAll]
    cases vs with
    | nil => simp
    | cons v vs =>
      rw [List.forall₂_cons, ← ih]
      simp only [Except.bind_eq_ok, Except.pure_eq_ok, List.cons.injEq]
      grind

theorem Operator.resolve_compound_eq_ok {c : Compound Operator} {d : Document}
    : (compound c).resolve ctx = .ok d ↔ c.isEmpty = false ∧
        ∃ values : Role → List Bson, (∀ role, resolveAll ctx (c.list role) = .ok (values role)) ∧
          .single "compound" (.document (entries values c.minimumShouldMatch)) = d := by
  have hresolve : (compound c).resolve ctx =
      if c.isEmpty = true then throw (.incompleteStage "$search" .noClause) else do
        let must ← resolveAll ctx c.must
        let mustNot ← resolveAll ctx c.mustNot
        let should ← resolveAll ctx c.should
        let filter ← resolveAll ctx c.filter
        return .single "compound" (.document (clauses "must" must ++ clauses "mustNot" mustNot ++
          clauses "should" should ++ clauses "filter" filter ++
          c.minimumShouldMatch.toList.map fun count => ("minimumShouldMatch", .int32 count))) := by
    rfl
  rw [hresolve]
  cases c.isEmpty with
  | true => simp
  | false =>
    simp only [Bool.false_eq_true, if_false, Except.bind_eq_ok, Except.pure_eq_ok, true_and]
    constructor
    . rintro ⟨must, hmust, mustNot, hmustNot, should, hshould, filter, hfilter, rfl⟩
      refine ⟨fun | .must => must | .mustNot => mustNot | .should => should | .filter => filter,
        ?_, rfl⟩
      intro role
      cases role
      . exact hmust
      . exact hmustNot
      . exact hshould
      . exact hfilter
    . rintro ⟨values, h, rfl⟩
      exact ⟨_, h .must, _, h .mustNot, _, h .should, _, h .filter, rfl⟩

namespace Declaration

/--
Each path in the declaration resolves, and each compound in it has a clause that holds an operator.
-/
structure Acceptable (ctx : Context) (t : Declaration) : Prop where
  path : ∀ d, t.Holds d → ∀ f ∈ d.path?, ∃ name, f.resolve ctx = .ok name
  clause : ∀ clauses, t.Holds (.compound clauses) → ∃ c ∈ clauses, c.operator?.isSome

/--
The operators that have everything of the declaration, with names as paths.
-/
inductive Shows (ctx : Context) : Declaration → Operator → Prop where
  | text (h : path.resolve ctx = .ok name) : Shows ctx (.text query path) (.text query (.name name))
  | phrase (h : path.resolve ctx = .ok name)
      : Shows ctx (.phrase query path) (.phrase query (.name name))
  | presence (h : path.resolve ctx = .ok name) : Shows ctx (.presence path) (.presence (.name name))
  | equals (h : path.resolve ctx = .ok name)
      : Shows ctx (.equals path value) (.equals (.name name) value)
  | range (h : path.resolve ctx = .ok name)
      : Shows ctx (.range path calls) (.range ⟨.name name, Range.lastCalls calls⟩)
  | compound {clauses : List (Compound.Clause Declaration)} {c : Compound Operator}
      (hlist : ∀ role, List.Forall₂ (Shows ctx)
        (clauses.filterMap (Compound.Clause.ofRole? role)) (c.list role))
      (hminimum : c.minimumShouldMatch = (clauses.filterMap Compound.Clause.minimum?).getLast?)
      : Shows ctx (.compound clauses) (.compound c)

theorem exists_readAll {ds : List Declaration} {vs : List Bson}
    (ih : ∀ t ∈ ds, ∀ d, t.toOperator.resolve ctx = .ok d →
      ∃ o, Operator.read (.document d) = some o ∧ t.Shows ctx o)
    (h : Operator.resolveAll ctx (ds.map toOperator) = .ok vs)
    : ∃ os, Operator.readAll vs = some os ∧ List.Forall₂ (Shows ctx) ds os := by
  rw [Operator.resolveAll_eq_ok, List.forall₂_map_left_iff] at h
  induction h with
  | nil => exact ⟨[], by rfl, .nil⟩
  | @cons t v ds vs hv _ htail =>
    rw [List.forall_mem_cons] at ih
    rcases hv with ⟨d, hd, rfl⟩
    rcases ih.left d hd with ⟨o, hread, hshows⟩
    rcases htail ih.right with ⟨os, hreads, hall⟩
    refine ⟨o :: os, ?_, .cons hshows hall⟩
    rw [Operator.readAll, hread, hreads]
    rfl

theorem exists_read (t : Declaration) : ∀ d, t.toOperator.resolve ctx = .ok d →
    ∃ o, Operator.read (.document d) = some o ∧ t.Shows ctx o := by
  induction t with
  | text query path | phrase query path | presence path | equals path value =>
    intro d h
    simp only [toOperator, Operator.resolve, Except.bind_eq_ok, Except.pure_eq_ok] at h
    rcases h with ⟨name, hname, rfl⟩
    refine ⟨_, rfl, ?_⟩
    constructor
    exact hname
  | range path calls =>
    intro d h
    rw [toOperator, Range.ofBounds_eq_lastCalls] at h
    simp only [Operator.resolve, Except.bind_eq_ok, Except.pure_eq_ok] at h
    rcases h with ⟨name, hname, rfl⟩
    refine ⟨.range ⟨.name name, Range.lastCalls calls⟩, ?_, .range hname⟩
    apply Operator.read_range
  | compound clauses ih =>
    intro d h
    rw [toOperator, Operator.resolve_compound_eq_ok, minimum_toOperator] at h
    rcases h with ⟨_, values, hvalues, rfl⟩
    -- Each list is read on its own, with the hypothesis about the clauses that went to it.
    have hread (role : Role) : ∃ os, Operator.readAll (values role) = some os ∧
        List.Forall₂ (Shows ctx) (clauses.filterMap (Compound.Clause.ofRole? role)) os := by
      apply exists_readAll
      . intro t ht
        rw [List.mem_filterMap] at ht
        rcases ht with ⟨c, hc, ht⟩
        exact ih c hc t (Compound.Clause.operator?_eq_some_iff.mpr ⟨role, ht⟩)
      . rw [← list_toOperator]
        exact hvalues role
    choose operators hreads hshows using hread
    refine ⟨.compound ⟨operators .must, operators .mustNot, operators .should, operators .filter,
      (clauses.filterMap Compound.Clause.minimum?).getLast?⟩, ?_, .compound ?_ rfl⟩
    . rw [Document.single, Operator.read, Operator.readCompound_entries hreads]
      rfl
    . intro role
      cases role
      all_goals apply hshows

end Declaration

/-!
When there is a document at all.
-/

theorem Operator.exists_resolveAll_iff {os : List Operator}
    : (∃ vs, resolveAll ctx os = .ok vs) ↔ ∀ o ∈ os, ∃ d, o.resolve ctx = .ok d := by
  induction os with
  | nil => simp [resolveAll]
  | cons o os ih =>
    rw [List.forall_mem_cons, ← ih, resolveAll]
    simp

theorem Operator.exists_resolve_compound_iff {c : Compound Operator}
    : (∃ d, (compound c).resolve ctx = .ok d) ↔
        c.isEmpty = false ∧ ∀ role, ∀ o ∈ c.list role, ∃ d, o.resolve ctx = .ok d := by
  simp only [resolve_compound_eq_ok, ← exists_resolveAll_iff]
  constructor
  . rintro ⟨d, hempty, values, hvalues, _⟩
    exact ⟨hempty, fun role => ⟨values role, hvalues role⟩⟩
  . rintro ⟨hempty, hlists⟩
    choose values hvalues using hlists
    exact ⟨_, hempty, values, hvalues, rfl⟩

namespace Declaration

theorem Holds.eq_of_path? {t d : Declaration} {f : FieldPath} (h : t.Holds d)
    (hf : t.path? = some f) : d = t := by
  cases h with
  | root => rfl
  | clause => cases hf

theorem acceptable_iff_of_path? {t : Declaration} {f : FieldPath} (hf : t.path? = some f)
    : t.Acceptable ctx ↔ ∃ name, f.resolve ctx = .ok name := by
  constructor
  . intro h
    exact h.path t .root f hf
  . intro h
    constructor
    . intro d hd f' hf'
      rw [hd.eq_of_path? hf, hf] at hf'
      cases hf'
      exact h
    . intro clauses hd
      rw [← hd.eq_of_path? hf] at hf
      cases hf

theorem acceptable_compound_iff {clauses : List (Compound.Clause Declaration)}
    : (compound clauses).Acceptable ctx ↔ (∃ c ∈ clauses, c.operator?.isSome) ∧
        ∀ c ∈ clauses, ∀ t ∈ c.operator?, t.Acceptable ctx := by
  constructor
  . intro h
    refine ⟨h.clause clauses .root, ?_⟩
    intro c hc t ht
    constructor
    . intro d hd
      exact h.path d (.clause hc ht hd)
    . intro clauses' hd
      exact h.clause clauses' (.clause hc ht hd)
  . intro ⟨hclause, hparts⟩
    constructor
    . intro d hd
      cases hd with
      | root => simp [path?]
      | clause hc ht hd => exact (hparts _ hc _ ht).path d hd
    . intro clauses' hd
      cases hd with
      | root => exact hclause
      | clause hc ht hd => exact (hparts _ hc _ ht).clause clauses' hd

theorem isEmpty_toOperator {clauses : List (Compound.Clause Declaration)}
    : (Compound.ofClauses (toClauses clauses)).isEmpty = false ↔
        ∃ c ∈ clauses, c.operator?.isSome := by
  rw [Compound.isEmpty_eq_false_iff]
  simp only [list_toOperator, ne_eq, List.map_eq_nil_iff]
  constructor
  . rintro ⟨role, h⟩
    rcases List.exists_mem_of_ne_nil _ h with ⟨t, ht⟩
    rcases List.mem_filterMap.mp ht with ⟨c, hc, ht⟩
    refine ⟨c, hc, ?_⟩
    rw [Compound.Clause.operator?_eq_some_iff.mpr ⟨role, ht⟩, Option.isSome_some]
  . rintro ⟨c, hc, h⟩
    rcases Option.isSome_iff_exists.mp h with ⟨t, ht⟩
    rcases Compound.Clause.operator?_eq_some_iff.mp ht with ⟨role, ht⟩
    refine ⟨role, ?_⟩
    apply List.ne_nil_of_mem
    exact List.mem_filterMap.mpr ⟨c, hc, ht⟩

theorem exists_resolve_iff (t : Declaration)
    : (∃ d, t.toOperator.resolve ctx = .ok d) ↔ t.Acceptable ctx := by
  induction t with
  | text query path | phrase query path | presence path | equals path value | range path calls =>
    rw [acceptable_iff_of_path? rfl]
    simp [toOperator, Operator.resolve, Range.ofBounds_eq_lastCalls]
  | compound clauses ih =>
    rw [toOperator, Operator.exists_resolve_compound_iff, acceptable_compound_iff]
    rw [isEmpty_toOperator]
    simp only [list_toOperator, List.forall_mem_map, Compound.forall_ofRole?_iff]
    constructor
    . intro ⟨hclause, hparts⟩
      exact ⟨hclause, fun c hc t ht => (ih c hc t ht).mp (hparts c hc t ht)⟩
    . intro ⟨hclause, hparts⟩
      exact ⟨hclause, fun c hc t ht => (ih c hc t ht).mpr (hparts c hc t ht)⟩

end Declaration

end Search

end Aggregation
