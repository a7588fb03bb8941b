import Aggregation.Proofs.Search.Reading

/-!
This module contains what the resolution of a declared search operator writes, over all of the
operators in it: when it succeeds, what can be read back, and which lists a compound shows.
-/

namespace Aggregation

namespace Search

open Compound (Role)

namespace Operator

theorem mem_clauses_iff {key : String} {vs : List Bson} {e : String × Bson}
    : e ∈ clauses key vs ↔ vs ≠ [] ∧ e = (key, .array vs) := by
  unfold clauses
  cases vs with
  | nil => simp
  | cons v vs => simp

theorem mem_entries_iff {values : Role → List Bson} {minimum : Option Int32} {e : String × Bson}
    : e ∈ entries values minimum ↔
        (∃ role, values role ≠ [] ∧ e = (role.name, .array (values role))) ∨
          ∃ count ∈ minimum, e = ("minimumShouldMatch", .int32 count) := by
  simp only [Role.exists_iff, ← mem_clauses_iff, Role.name, entries, List.mem_append, or_assoc]
  cases minimum <;> simp

theorem role_mem_keys_entries {values : Role → List Bson} {minimum : Option Int32} {role : Role}
    : role.name ∈ Document.keys (entries values minimum) ↔ values role ≠ [] := by
  rw [Document.keys, List.mem_map]
  simp only [mem_entries_iff]
  constructor
  . rintro ⟨_, ⟨role', h, rfl⟩ | ⟨_, _, rfl⟩, hname⟩
    . have hrole : role' = role := by
        simp only at hname
        rw [← Option.some_inj, ← Role.ofName?_name, hname, Role.ofName?_name]
      rw [← hrole]
      exact h
    . cases role <;> simp [Role.name] at hname
  . intro h
    exact ⟨(role.name, .array (values role)), .inl ⟨role, h, rfl⟩, rfl⟩

theorem minimum_mem_keys_entries {values : Role → List Bson} {minimum : Option Int32}
    : "minimumShouldMatch" ∈ Document.keys (entries values minimum) ↔ minimum.isSome := by
  rw [Document.keys, List.mem_map, Option.isSome_iff_exists]
  simp only [mem_entries_iff]
  constructor
  . rintro ⟨_, ⟨role, _, rfl⟩ | ⟨count, hcount, rfl⟩, hname⟩
    . cases role <;> simp [Role.name] at hname
    . exact ⟨count, hcount⟩
  . rintro ⟨count, hcount⟩
    exact ⟨("minimumShouldMatch", .int32 count), .inr ⟨count, hcount, rfl⟩, rfl⟩

theorem exists_mem_of_resolveAll {ctx : Context} {os : List Operator} {vs : List Bson}
    (h : resolveAll ctx os = .ok vs) {o : Operator} (ho : o ∈ os)
    : ∃ d, o.resolve ctx = .ok d ∧ .document d ∈ vs := by
  rw [resolveAll_eq_ok] at h
  induction h with
  | nil => cases ho
  | cons head _ ih =>
    rcases List.mem_cons.mp ho with rfl | ho
    . rcases head with ⟨d, hd, rfl⟩
      exact ⟨d, hd, List.mem_cons_self⟩
    . rcases ih ho with ⟨d, hd, hmem⟩
      exact ⟨d, hd, List.mem_cons_of_mem _ hmem⟩

/-- The documents in the clauses of a document, at any depth. -/
inductive Shown : Document → Document → Prop where
  | root : Shown d d
  | clause {body : Document} {items : List Bson} {d e : Document} {role : Role}
      (hitems : (role.name, .array items) ∈ body) (hd : .document d ∈ items) (h : Shown d e)
      : Shown (.single "compound" (.document body)) e

end Operator

namespace Declaration

open Operator (Shown entries resolveAll)

variable {ctx : Context}

theorem exists_values {clauses : List (Compound.Clause Declaration)} {d : Document}
    (h : (compound clauses).toOperator.resolve ctx = .ok d)
    : ∃ values : Role → List Bson,
        (∀ role, resolveAll ctx
          ((clauses.filterMap (Compound.Clause.ofRole? role)).map toOperator) =
            .ok (values role)) ∧
        .single "compound" (.document
          (entries values (clauses.filterMap Compound.Clause.minimum?).getLast?)) = d := by
  rw [toOperator, Operator.resolve_compound_eq_ok, minimum_toOperator] at h
  simp only [list_toOperator] at h
  exact h.right

/-- The document of each operator in the declaration stands in the document of the whole. -/
theorem Holds.exists_shown {t u : Declaration} (hu : t.Holds u)
    : ∀ d, t.toOperator.resolve ctx = .ok d →
        ∃ e, u.toOperator.resolve ctx = .ok e ∧ Shown d e := by
  induction hu with
  | root =>
    intro d h
    exact ⟨d, h, .root⟩
  | @clause c o u clauses hc ho _ ih =>
    intro d h
    rcases exists_values h with ⟨values, hvalues, rfl⟩
    rcases Compound.Clause.operator?_eq_some_iff.mp ho with ⟨role, hrole⟩
    have hmem : o.toOperator ∈
        (clauses.filterMap (Compound.Clause.ofRole? role)).map toOperator := by
      apply List.mem_map_of_mem
      exact List.mem_filterMap.mpr ⟨c, hc, hrole⟩
    rcases Operator.exists_mem_of_resolveAll (hvalues role) hmem with ⟨f, hf, hv⟩
    rcases ih f hf with ⟨e, he, hshown⟩
    have hitems : (role.name, .array (values role)) ∈
        entries values (clauses.filterMap Compound.Clause.minimum?).getLast? := by
      rw [Operator.mem_entries_iff]
      exact .inl ⟨role, List.ne_nil_of_mem hv, rfl⟩
    exact ⟨e, he, .clause hitems hv hshown⟩

/--
A compound shows the lists that have a clause and no others, and a count exactly if one is declared.
-/
structure Lists (clauses : List (Compound.Clause Declaration)) (body : Document) : Prop where
  role : ∀ role : Role, role.name ∈ body.keys ↔ ∃ c ∈ clauses, (c.ofRole? role).isSome
  minimum : "minimumShouldMatch" ∈ body.keys ↔ ∃ c ∈ clauses, c.minimum?.isSome

theorem exists_lists {clauses : List (Compound.Clause Declaration)} {d : Document}
    (h : (compound clauses).toOperator.resolve ctx = .ok d)
    : ∃ body, d = .single "compound" (.document body) ∧ Lists clauses body := by
  rcases exists_values h with ⟨values, hvalues, rfl⟩
  refine ⟨_, rfl, ?_, ?_⟩
  . intro role
    have hlength := (Operator.resolveAll_eq_ok.mp (hvalues role)).length_eq
    rw [Operator.role_mem_keys_entries, ← List.length_pos_iff, ← hlength, List.length_map]
    rw [List.length_pos_iff_exists_mem]
    simp only [List.mem_filterMap, Option.isSome_iff_exists]
    grind
  . rw [Operator.minimum_mem_keys_entries, List.getLast?_isSome, ← List.length_pos_iff]
    rw [List.length_pos_iff_exists_mem]
    simp only [List.mem_filterMap, Option.isSome_iff_exists]
    grind

/--
An operator is written exactly if its paths resolve and its compounds have clauses, and then all of
it is read back from what is written.
-/
theorem resolve_keeps (ctx : Context) (t : Declaration)
    : ((∃ d, t.toOperator.resolve ctx = .ok d) ↔ t.Acceptable ctx) ∧
      (∀ d, t.toOperator.resolve ctx = .ok d →
        (∃ o, Operator.read (.document d) = some o ∧ t.Shows ctx o) ∧
        ∀ clauses, t.Holds (.compound clauses) →
          ∃ body, Shown d (.single "compound" (.document body)) ∧ Lists clauses body) ∧
      ∀ calls, (Range.lastCalls calls).Sublist calls ∧
        ((Range.lastCalls calls).map Prod.fst).Nodup ∧
        ∀ b, (Range.lastCalls calls).lookup b = calls.reverse.lookup b := by
  refine ⟨exists_resolve_iff t, ?_, ?_⟩
  . intro d h
    refine ⟨exists_read t d h, ?_⟩
    intro clauses hclauses
    rcases hclauses.exists_shown d h with ⟨e, he, hshown⟩
    rcases exists_lists he with ⟨body, rfl, hlists⟩
    exact ⟨body, hshown, hlists⟩
  . intro calls
    refine ⟨Range.lastCalls_sublist calls, Range.nodup_keys_lastCalls calls, ?_⟩
    exact Range.lookup_lastCalls calls

def sample : Declaration :=
  .compound [
    .must (.range (.name "price") [(.gt, .int32 1), (.lt, .int32 9), (.gt, .int32 2)]),
    .minimumShouldMatch 2,
    .filter (.compound [
      .should (.text "tea" (.property (.child (.named "item") { declared := "title" }))),
      .should (.presence (.name "stock"))]),
    .must (.equals (.name "color") (.string "red")),
    .minimumShouldMatch 1]

def sampleDocument : Document :=
  [("compound", .document [
    ("must", .array [
      .document [("range", .document [
        ("path", .string "price"), ("lt", .int32 9), ("gt", .int32 2)])],
      .document [("equals", .document [("path", .string "color"), ("value", .string "red")])]]),
    ("filter", .array [
      .document [("compound", .document [
        ("should", .array [
          .document [("text", .document [
            ("query", .string "tea"), ("path", .string "item.title")])],
          .document [("exists", .document [("path", .string "stock")])]])])]]),
    ("minimumShouldMatch", .int32 1)])]

theorem resolve_keeps_sample
    : sample.toOperator.resolve {} = .ok sampleDocument ∧ sample.Acceptable {} ∧
        ∃ o, Operator.read (.document sampleDocument) = some o ∧ sample.Shows {} o := by
  have h : sample.toOperator.resolve {} = .ok sampleDocument := by rfl
  have hkeeps := resolve_keeps {} sample
  exact ⟨h, hkeeps.left.mp ⟨_, h⟩, (hkeeps.right.left _ h).left⟩

end Declaration

end Search

end Aggregation
