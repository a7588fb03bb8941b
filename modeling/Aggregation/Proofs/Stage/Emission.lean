import Aggregation.Pipeline
import Aggregation.Proofs.Document
import Aggregation.Proofs.Stage.Basic
import Mathlib.Tactic.Choose

/-!
This module contains the shape of the documents that stages are written as. A stage with nothing to
do is left out, a raw document is written as it is, and any other stage has one key, its name. The
pipelines inside a stage are written in the same way.
-/

namespace Aggregation

theorem Unwind.isNone_body? {ctx : Context} {u : Unwind} {d : Option Document}
    (h : u.body? ctx = .ok d) : d.isNone = u.path.isNone := by
  unfold Unwind.body? at h
  cases hpath : u.path with
  | none =>
    rw [hpath, Except.pure_eq_ok] at h
    rw [← h]
    rfl
  | some path =>
    simp only [hpath, Except.bind_eq_ok, Except.pure_eq_ok] at h
    rcases h with ⟨_, _, _, _, rfl⟩
    rfl

theorem UnionWith.isNone_body? {inner : Except Error (List (String × Bson))}
    {u : UnionWith Stage} {d : Option Document} (h : u.body? inner = .ok d)
    : d.isNone = u.collection.isNone := by
  unfold UnionWith.body? at h
  cases hcollection : u.collection with
  | none =>
    rw [hcollection, Except.pure_eq_ok] at h
    rw [← h]
    rfl
  | some collection =>
    simp only [hcollection, Except.bind_eq_ok, Except.pure_eq_ok] at h
    rcases h with ⟨_, _, rfl⟩
    rfl

theorem UnionWith.get?_body? {inner : Except Error (List (String × Bson))}
    {u : UnionWith Stage} {d : Document} (h : u.body? inner = .ok (some d))
    : ∃ es, inner = .ok es ∧ d.get? "pipeline" = Document.get? es "pipeline" := by
  unfold UnionWith.body? at h
  cases hcollection : u.collection with
  | none => simp [hcollection] at h
  | some collection =>
    simp only [hcollection, Except.bind_eq_ok, Except.pure_eq_ok, Option.some.injEq] at h
    rcases h with ⟨es, hes, rfl⟩
    refine ⟨es, hes, ?_⟩
    simp

@[simp]
theorem Lookup.get?_letEntry_pipeline (bindings : List (String × Bson))
    : Document.get? (letEntry bindings) "pipeline" = none := by
  unfold letEntry
  split <;> simp

theorem Lookup.get?_body {ctx : Context} {inner : Except Error (List (String × Bson))}
    {l : Lookup Stage} {d : Document} (h : l.body ctx inner = .ok d)
    : ∃ es, inner = .ok es ∧ d.get? "pipeline" = Document.get? es "pipeline" := by
  unfold Lookup.body at h
  cases houtput : l.output with
  | none => simp [houtput] at h
  | some output =>
    simp only [houtput, Except.bind_eq_ok, Except.pure_eq_ok] at h
    rcases h with ⟨localField, _, foreignField, _, bindings, _, es, hes, as, _, rfl⟩
    refine ⟨es, hes, ?_⟩
    simp

namespace Stage

def isIdle : Stage → Bool
  | .unwind u => u.path.isNone
  | .unionWith u => u.collection.isNone
  | _ => false

def retained (p : Pipeline) : Pipeline :=
  p.filter fun s => !s.isIdle

def isRaw : Stage → Bool
  | .raw _ => true
  | _ => false

/-- The keys in the body of a stage that are reserved for the pipelines inside it. -/
def reserves : Stage → String → Prop
  | .lookup _, key => key = "pipeline"
  | .unionWith _, key => key = "pipeline"
  | .facet _, _ => True
  | _, _ => False

/-- The last pipeline declared under a key. -/
def inner? (s : Stage) (key : String) : Option Pipeline :=
  s.pipelines.reverse.lookup key

inductive Emits : Stage → Document → Prop
  | raw (d : Document) : Emits (.raw d) d
  | keyed {s : Stage} {body : Bson} (documents : String → List Document)
      (notRaw : s.isRaw = false)
      (shown : ∀ key, s.reserves key → ∃ d : Document, body = .document d ∧
        d.get? key = (s.inner? key).map fun _ => Bson.array ((documents key).map .document))
      (inner : ∀ key p, s.reserves key → s.inner? key = some p →
        List.Forall₂ Emits (retained p) (documents key))
      : Emits s (.single s.name body)

variable {ctx : Context}

theorem isNone_resolve {s : Stage} {d : Option Document} (h : s.resolve ctx = .ok d)
    : d.isNone = s.isIdle := by
  cases s
  case unwind u =>
    simp only [resolve, Except.bind_eq_ok, Except.pure_eq_ok] at h
    rcases h with ⟨body, hbody, rfl⟩
    rw [Option.isNone_map, isIdle]
    exact Unwind.isNone_body? hbody
  case unionWith u =>
    simp only [resolve_unionWith, Except.bind_eq_ok, Except.pure_eq_ok] at h
    rcases h with ⟨body, hbody, rfl⟩
    rw [Option.isNone_map, isIdle]
    exact UnionWith.isNone_body? hbody
  case facet f =>
    rw [resolve_facet_eq_ok] at h
    rcases h with ⟨_, _, _, rfl⟩
    rfl
  all_goals
    simp only [resolve, Except.bind_eq_ok, Except.pure_eq_ok] at h
    grind [isIdle]

theorem exists_body {s : Stage} {d : Document} (hraw : s.isRaw = false)
    (h : s.resolve ctx = .ok (some d)) : ∃ body, d = .single s.name body := by
  cases s
  case facet f =>
    rw [resolve_facet_eq_ok] at h
    rcases h with ⟨_, es, _, hd⟩
    rw [Option.some.injEq] at hd
    rw [← hd, name]
    exact ⟨_, rfl⟩
  all_goals
    simp only [resolve, Except.bind_eq_ok, Except.pure_eq_ok, Option.some.injEq,
      Option.map_eq_some_iff] at h
    grind [isRaw, name]

theorem reverse_of_resolveInner {p : Option Pipeline} {es : List (String × Bson)}
    (h : resolveInner ctx p = .ok es) : es.reverse = es := by
  cases p with
  | none =>
    rw [resolveInner, Except.pure_eq_ok] at h
    rw [← h]
    rfl
  | some p =>
    simp only [resolveInner, Except.bind_eq_ok, Except.pure_eq_ok] at h
    rcases h with ⟨_, _, rfl⟩
    rfl

theorem shows_pipelines {s : Stage} {body : Bson} {key : String} (hkey : s.reserves key)
    (h : s.resolve ctx = .ok (some (.single s.name body)))
    : ∃ (d : Document) (es : Document), body = .document d ∧
        s.pipelines.mapM (resolveEntry ctx) = .ok es ∧
        d.get? key = Document.get? es.reverse key := by
  cases s
  case lookup l =>
    rw [reserves] at hkey
    simp only [resolve_lookup, name, Except.bind_eq_ok, Except.pure_eq_ok, Option.some.injEq,
      Document.single_inj] at h
    rcases h with ⟨d, hbody, rfl⟩
    rcases Lookup.get?_body hbody with ⟨es, hes, hget⟩
    refine ⟨d, es, rfl, ?_, ?_⟩
    . rw [← hes, resolveInner_eq_mapM, pipelines]
    . rw [hkey, hget, reverse_of_resolveInner hes]
  case unionWith u =>
    rw [reserves] at hkey
    simp only [resolve_unionWith, name, Except.bind_eq_ok, Except.pure_eq_ok,
      Option.map_eq_some_iff, Document.single_inj] at h
    rcases h with ⟨_, hbody, d, rfl, rfl⟩
    rcases UnionWith.get?_body? hbody with ⟨es, hes, hget⟩
    refine ⟨d, es, rfl, ?_, ?_⟩
    . rw [← hes, resolveInner_eq_mapM, pipelines]
    . rw [hkey, hget, reverse_of_resolveInner hes]
  case facet f =>
    rw [resolve_facet_eq_ok, resolveFacets_eq_mapM] at h
    rcases h with ⟨_, es, hes, hbody⟩
    rw [name, Option.some.injEq, Document.single_inj] at hbody
    refine ⟨_, es, hbody.symm, ?_, ?_⟩
    . rw [pipelines]
      exact hes
    . rw [Document.get?_ofEntries]
  all_goals simp [reserves] at hkey

def Builds (ctx : Context) (p : Pipeline) (v : Bson) : Prop :=
  ∃ ds, p.build ctx = .ok ds ∧ v = .array (ds.map .document)

theorem mem_pipelines_of_inner? {s : Stage} {key : String} {p : Pipeline}
    (h : s.inner? key = some p) : (key, p) ∈ s.pipelines := by
  unfold inner? at h
  rw [List.lookup_eq_some_iff] at h
  rcases h with ⟨l₁, l₂, hl, _⟩
  rw [← List.mem_reverse, hl]
  simp

/-- What stands under a reserved key is the build of the last pipeline declared under it. -/
theorem rel_inner? {s : Stage} {body : Bson} {key : String} (hkey : s.reserves key)
    (h : s.resolve ctx = .ok (some (.single s.name body)))
    : ∃ d : Document, body = .document d ∧ Option.Rel (Builds ctx) (s.inner? key) (d.get? key) := by
  rcases shows_pipelines hkey h with ⟨d, es, hd, hes, hget⟩
  refine ⟨d, hd, ?_⟩
  rw [Except.mapM_eq_ok, ← List.forall₂_reverse_iff] at hes
  rw [hget]
  apply Document.rel_get?
  apply hes.imp
  intro x e hxe
  simp only [resolveEntry, Except.bind_eq_ok, Except.pure_eq_ok] at hxe
  rcases hxe with ⟨ds, hds, rfl⟩
  exact ⟨rfl, ds, hds, rfl⟩

theorem exists_documents {s : Stage} {body : Bson} {key : String} (hkey : s.reserves key)
    (h : s.resolve ctx = .ok (some (.single s.name body)))
    : ∃ ds : List Document,
        (∃ d : Document, body = .document d ∧
          d.get? key = (s.inner? key).map fun _ => Bson.array (ds.map .document)) ∧
        ∀ p, s.inner? key = some p → p.build ctx = .ok ds := by
  rcases rel_inner? hkey h with ⟨d, hd, hrel⟩
  generalize s.inner? key = p at hrel
  generalize hget : d.get? key = v at hrel
  cases hrel with
  | none => exact ⟨[], ⟨d, hd, hget⟩, by simp⟩
  | some hbuilds =>
    rcases hbuilds with ⟨ds, hds, rfl⟩
    exact ⟨ds, ⟨d, hd, hget⟩, by simpa using hds⟩

theorem forall₂_emits_of_resolveAll {p : Pipeline} {ds : List Document}
    (ih : ∀ s ∈ p, ∀ d, s.resolve ctx = .ok (some d) → s.Emits d)
    (h : resolveAll ctx p = .ok ds)
    : List.Forall₂ Emits (retained p) ds := by
  induction p generalizing ds with
  | nil =>
    rw [resolveAll, Except.pure_eq_ok] at h
    rw [← h]
    exact .nil
  | cons s p ihp =>
    simp only [resolveAll, Except.bind_eq_ok, Except.pure_eq_ok] at h
    rcases h with ⟨d, hs, ds, hp, rfl⟩
    have htail : List.Forall₂ Emits (retained p) ds := by
      apply ihp
      . intro t ht
        exact ih t (List.mem_cons_of_mem s ht)
      . exact hp
    have hidle := isNone_resolve hs
    -- The stage is retained exactly if it has a document.
    cases d with
    | none =>
      rw [Option.isNone_none] at hidle
      simpa [retained, ← hidle] using htail
    | some d =>
      rw [Option.isNone_some] at hidle
      have hhead := ih s (by simp) d hs
      simpa [retained, ← hidle] using ⟨hhead, htail⟩

theorem emits_of_resolve (s : Stage) : ∀ d, s.resolve ctx = .ok (some d) → s.Emits d := by
  induction s using Stage.induction with
  | step s ih =>
    intro d h
    cases hraw : s.isRaw with
    | true =>
      cases s <;> simp only [isRaw, reduceCtorEq] at hraw
      rw [resolve, Except.pure_eq_ok, Option.some.injEq] at h
      rw [h]
      apply Emits.raw
    | false =>
      rcases exists_body hraw h with ⟨body, rfl⟩
      have hexists (key : String) : ∃ ds : List Document, s.reserves key →
          (∃ d : Document, body = .document d ∧
            d.get? key = (s.inner? key).map fun _ => Bson.array (ds.map .document)) ∧
          ∀ p, s.inner? key = some p → p.build ctx = .ok ds := by
        by_cases hkey : s.reserves key
        . rcases exists_documents hkey h with ⟨ds, hds⟩
          exact ⟨ds, fun _ => hds⟩
        . exact ⟨[], fun hkey' => absurd hkey' hkey⟩
      -- The documents under all keys at once, as the constructor asks for them.
      choose documents hdocuments using hexists
      apply Emits.keyed documents hraw
      . intro key hkey
        exact (hdocuments key hkey).left
      . intro key p hkey hp
        have hbuild := (hdocuments key hkey).right p hp
        apply forall₂_emits_of_resolveAll
        . intro t ht
          exact ih key p (mem_pipelines_of_inner? hp) t ht
        . exact hbuild

end Stage

namespace Pipeline

theorem build_emits {ctx : Context} {p : Pipeline} {ds : List Document}
    (h : p.build ctx = .ok ds) : List.Forall₂ Stage.Emits (Stage.retained p) ds := by
  apply Stage.forall₂_emits_of_resolveAll
  . intro s _ d hs
    apply Stage.emits_of_resolve
    exact hs
  . exact h

def nestedSample : Pipeline := [
  .unwind {},
  .raw [("$match", .document [])],
  .lookup {
    pipeline := some [.unionWith { pipeline := some [.limit 1] }, .skip 2],
    output := some (.name "found") },
  .facet { facets := [("a", [.limit 1]), ("b", [.unwind {}]), ("a", [.unwind {}, .count "n"])] }]

def nestedSampleDocuments : List Document := [
  [("$match", .document [])],
  [("$lookup", .document [
    ("pipeline", .array [.document [("$skip", .int64 2)]]),
    ("as", .string "found")])],
  [("$facet", .document [
    ("a", .array [.document [("$count", .string "n")]]),
    ("b", .array [])])]]

theorem build_emits_nestedSample
    : nestedSample.build {} = .ok nestedSampleDocuments ∧
        List.Forall₂ Stage.Emits (Stage.retained nestedSample) nestedSampleDocuments := by
  have h : nestedSample.build {} = .ok nestedSampleDocuments := by rfl
  exact ⟨h, build_emits h⟩

end Pipeline

end Aggregation
