import Aggregation.Proofs.Resolution.Stage
import Aggregation.Proofs.Stage.Emission

/-!
This module contains the theorems that the properties and the times in a pipeline are all that its
build takes from the context, and that a property can be given by name.
-/

namespace Aggregation

theorem FieldPath.resolve_name {ctx : Context} {path : String} (h : path ≠ "")
    : (FieldPath.name path).resolve ctx = .ok path := by
  rw [resolve, if_neg h]
  rfl

theorem FieldPath.resolve_ofPath_name {ctx : Context} {path : String} (h : path ≠ "")
    (hsigil : path.toList.head? ≠ some '$')
    : (Operand.ofPath (.name path)).resolve ctx = .ok (.string ("$" ++ path)) := by
  rw [Operand.ofPath, Operand.resolve, reference, resolve_name h]
  simp only [bind, Except.bind, pure, Except.pure, marked, if_neg hsigil]

namespace Environment

/--
Two environments that cannot be told apart by some properties and times.
-/
structure Agree (qs : List Property) (ts : List Instant) (c c' : Environment) : Prop where
  path : ∀ q ∈ qs,
    (c.replacement q).resolve c.context = (c'.replacement q).resolve c'.context
  reference : ∀ q ∈ qs,
    (Operand.ofPath (c.replacement q)).resolve c.context =
      (Operand.ofPath (c'.replacement q)).resolve c'.context
  instant : ∀ t ∈ ts, c.context.encodeInstant t = c'.context.encodeInstant t

namespace Agree

variable {c c' : Environment}

theorem answer_eq {k : Check} (h : Agree k.properties k.instants c c')
    : k.answer c = k.answer c' := by
  cases k with
  | path f =>
    cases f with
    | name path => rfl
    | property q =>
      simp only [Check.answer, FieldPath.substitute]
      rw [h.path q (by simp [Check.properties])]
  | reference f =>
    cases f with
    | name path => rfl
    | property q =>
      simp only [Check.answer, FieldPath.substitute]
      rw [h.reference q (by simp [Check.properties])]
  | instant t =>
    simp only [Check.answer]
    rw [h.instant t (by simp [Check.instants])]
  | fault e => rfl

theorem build_eq {p : Pipeline} (h : Agree p.properties p.instants c c')
    : (p.substitute c.replacement).build c.context =
        (p.substitute c'.replacement).build c'.context := by
  apply p.asks_build.congr c c'
  intro k hk
  apply answer_eq
  constructor
  . intro q hq
    exact h.path q (List.mem_flatMap_of_mem hk hq)
  . intro q hq
    exact h.reference q (List.mem_flatMap_of_mem hk hq)
  . intro t ht
    exact h.instant t (List.mem_flatMap_of_mem hk ht)

end Agree

end Environment

namespace Pipeline

/--
The stages that the build never looks into, those without a path or a collection, may contain other
properties and times. The pipelines inside a stage are built in the context of the stage.
-/
theorem build_congr_context {p : Pipeline} {ctx ctx' : Context}
    (hproperties : ∀ q ∈ p.properties, ctx.resolveProperty q = ctx'.resolveProperty q)
    (hinstants : ∀ t ∈ p.instants, ctx.encodeInstant t = ctx'.encodeInstant t)
    : p.build ctx = p.build ctx' ∧
        ∀ (s : Stage) (key : String) (body : Bson), s.reserves key →
          s.resolve ctx = .ok (some (.single s.name body)) →
          ∃ d : Document, body = .document d ∧
            Option.Rel (Stage.Builds ctx) (s.inner? key) (d.get? key) := by
  have agree : Environment.Agree p.properties p.instants ⟨ctx, .property⟩ ⟨ctx', .property⟩ := by
    constructor
    . intro q hq
      exact hproperties q hq
    . intro q hq
      rw [Operand.ofPath, Operand.resolve, Operand.resolve, hproperties q hq]
    . exact hinstants
  constructor
  . simpa using agree.build_eq
  . intro s key body hkey hs
    exact Stage.rel_inner? hkey hs

def lookupSample : Lookup Stage where
  localField := some (.property (.named "age"))
  bindings := [("limit", .property (.named "age"))]
  pipeline := some [
    .filter (.presence (.property (.named "age")) true),
    .assign { form := .set, assignments := [
      (.property (.child (.named "address") { declared := "since" }), .instant ⟨0⟩)] }]
  output := some (.name "found")

def propertySample : Pipeline :=
  [.lookup lookupSample]

def lookupSampleBody : Document := [
  ("localField", .string "age"),
  ("let", .document [("limit", .string "$age")]),
  ("pipeline", .array [
    .document [("$match", .document [("age", .document [("$exists", .bool true)])])],
    .document [("$set", .document [("address.since", .dateTime 0)])]]),
  ("as", .string "found")]

-- The context has nothing in common with the default one but what occurs in the sample.
def sampleContext : Context where
  resolveProperty q := if q ∈ propertySample.properties then q.path else return "hidden"
  encodeInstant t := if t ∈ propertySample.instants then t.toBson else .null

theorem build_congr_context_sample
    : (∀ q ∈ propertySample.properties,
          ({} : Context).resolveProperty q = sampleContext.resolveProperty q) ∧
        (∀ t ∈ propertySample.instants,
          ({} : Context).encodeInstant t = sampleContext.encodeInstant t) ∧
        propertySample.build {} = propertySample.build sampleContext ∧
        ∃ d : Document, Bson.document lookupSampleBody = .document d ∧
          Option.Rel (Stage.Builds {}) ((Stage.lookup lookupSample).inner? "pipeline") (d.get? "pipeline") := by
  have hproperties : ∀ q ∈ propertySample.properties,
      ({} : Context).resolveProperty q = sampleContext.resolveProperty q := by
    intro q hq
    simp only [sampleContext, if_pos hq]
  have hinstants : ∀ t ∈ propertySample.instants,
      ({} : Context).encodeInstant t = sampleContext.encodeInstant t := by
    intro t ht
    simp only [sampleContext, if_pos ht]
  refine ⟨hproperties, hinstants, (build_congr_context hproperties hinstants).left, ?_⟩
  apply (build_congr_context hproperties hinstants).right
  . rfl
  . rfl

theorem build_substitute_name {p : Pipeline} {ctx : Context} {name : Property → String}
    (h : ∀ q ∈ p.properties, ctx.resolveProperty q = .ok (name q) ∧ name q ≠ "" ∧
      (name q).toList.head? ≠ some '$')
    : (p.substitute fun q => .name (name q)).build ctx = p.build ctx := by
  have agree : Environment.Agree p.properties p.instants
      ⟨ctx, fun q => .name (name q)⟩ ⟨ctx, .property⟩ := by
    constructor
    . intro q hq
      rcases h q hq with ⟨hresolve, hempty, _⟩
      exact (FieldPath.resolve_name hempty).trans hresolve.symm
    . intro q hq
      rcases h q hq with ⟨hresolve, hempty, hsigil⟩
      rw [FieldPath.resolve_ofPath_name hempty hsigil, Operand.ofPath, Operand.resolve, hresolve]
      rfl
    . intro t _
      rfl
  simpa using agree.build_eq

theorem build_substitute_name_sample
    : (∀ q ∈ propertySample.properties,
          ({} : Context).resolveProperty q = .ok (q.path.toOption.getD "") ∧
            q.path.toOption.getD "" ≠ "" ∧ (q.path.toOption.getD "").toList.head? ≠ some '$') ∧
        (propertySample.substitute fun q => .name (q.path.toOption.getD "")).build {} =
          propertySample.build {} := by
  have h : ∀ q ∈ propertySample.properties,
      ({} : Context).resolveProperty q = .ok (q.path.toOption.getD "") ∧
        q.path.toOption.getD "" ≠ "" ∧ (q.path.toOption.getD "").toList.head? ≠ some '$' := by
    have hproperties : propertySample.properties = [.named "age", .named "age", .named "age",
        .child (.named "address") { declared := "since" }] := by
      rfl
    rw [hproperties]
    simp only [List.mem_cons, forall_eq_or_imp, List.not_mem_nil, false_imp_iff, implies_true]
    decide +kernel
  exact ⟨h, build_substitute_name h⟩

end Pipeline

end Aggregation
