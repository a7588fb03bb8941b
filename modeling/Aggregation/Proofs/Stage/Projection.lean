import Aggregation.Proofs.Builder.Basic
import Aggregation.Proofs.Document
import Aggregation.Proofs.Except
import Aggregation.Stage.Project

/-!
This module contains what a projection puts under a name. An engine reads a number or a boolean
there as a flag. The last clause for the name decides about it, and besides the clauses that keep
and drop fields only a constant that is hidden in an expression can bring a flag along.
-/

namespace Aggregation

def Bson.isFlag : Bson → Bool
  | .bool _ => true
  | .int32 _ => true
  | .int64 _ => true
  | .double _ => true
  | .decimal128 _ => true
  | _ => false

mutual

/--
The constant that is left of an operand when nothing is written around it.
-/
def Operand.constant? : Operand → Option Bson
  | .literal v => some v
  | .expression e => e.constant?
  | _ => none

def Expression.constant? : Expression → Option Bson
  | .operand o => o.constant?
  | _ => none

end

variable {ctx : Context}

mutual

theorem Operand.resolve_of_constant? (o : Operand) {v : Bson} (h : o.constant? = some v)
    : o.resolve ctx = .ok v := by
  cases o with
  | literal w =>
    rw [Operand.constant?, Option.some.injEq] at h
    rw [Operand.resolve, h]
    rfl
  | expression e =>
    rw [Operand.constant?] at h
    rw [Operand.resolve]
    exact e.resolve_of_constant? h
  | _ => simp [Operand.constant?] at h

theorem Expression.resolve_of_constant? (e : Expression) {v : Bson} (h : e.constant? = some v)
    : e.resolve ctx = .ok v := by
  cases e with
  | operand o =>
    rw [Expression.constant?] at h
    rw [Expression.resolve]
    exact o.resolve_of_constant? h
  | _ => simp [Expression.constant?] at h

end

@[simp]
theorem Bson.isFlag_single (key : String) (v : Bson) : (single key v).isFlag = false := by
  rfl

mutual

/-- All other operands are written as strings, documents and dates. -/
theorem Operand.isFlag_eq_false (hcodec : ctx.encodeInstant = Instant.toBson) (o : Operand)
    {v : Bson} (h : o.constant? = none) (hv : o.resolve ctx = .ok v) : v.isFlag = false := by
  cases o with
  | literal w => simp [Operand.constant?] at h
  | expression e =>
    rw [Operand.constant?] at h
    rw [Operand.resolve] at hv
    exact e.isFlag_eq_false hcodec h hv
  | instant t =>
    rw [Operand.resolve, Except.pure_eq_ok, hcodec] at hv
    rw [← hv]
    rfl
  | _ =>
    simp only [Operand.resolve, Except.bind_eq_ok, Except.pure_eq_ok] at hv
    grind [Bson.isFlag]

theorem Expression.isFlag_eq_false (hcodec : ctx.encodeInstant = Instant.toBson) (e : Expression)
    {v : Bson} (h : e.constant? = none) (hv : e.resolve ctx = .ok v) : v.isFlag = false := by
  cases e with
  | operand o =>
    rw [Expression.constant?] at h
    rw [Expression.resolve] at hv
    exact o.isFlag_eq_false hcodec h hv
  | criteria c =>
    simp only [Expression.resolve, Except.bind_eq_ok, Except.pure_eq_ok] at hv
    rcases hv with ⟨d, _, rfl⟩
    rfl
  | switch branches default =>
    cases branches with
    | nil => simp [Expression.resolve] at hv
    | cons b branches =>
      simp only [Expression.resolve, List.isEmpty_cons, Bool.false_eq_true, if_false,
        Except.bind_eq_ok, Except.pure_eq_ok] at hv
      grind [Bson.isFlag_single]
  | _ =>
    simp only [Expression.resolve, Except.bind_eq_ok, Except.pure_eq_ok] at hv
    grind [Bson.isFlag_single]

end

/-- The flag that a constant becomes when an expression hides it from the projection. -/
def Operand.hiddenFlag? : Operand → Option Bson
  | .expression e => e.constant?.filter Bson.isFlag
  | _ => none

namespace Project

namespace Clause

def field : Clause → FieldPath
  | .keep f => f
  | .drop f => f
  | .dropIdentity => .name identityField
  | .computed _ f => f
  | .expression f _ => f
  | .literal f _ => f

def flag? : Clause → Option Bson
  | .keep _ => some (.int32 1)
  | .drop _ => some (.int32 0)
  | .dropIdentity => some (.int32 0)
  | .computed o _ => o.hiddenFlag?
  | .expression _ e => (Operand.expression e).hiddenFlag?
  | .literal _ _ => none

/-- The value is a flag exactly if the clause writes one, and then it is this one. -/
def Writes (c : Clause) (v : Bson) : Prop :=
  ∀ w, c.flag? = some w ↔ w = v ∧ v.isFlag = true

end Clause

theorem hiddenFlag?_eq_some_iff (hcodec : ctx.encodeInstant = Instant.toBson) {o : Operand}
    {v : Bson} (h : (source o).resolve ctx = .ok v) (w : Bson)
    : o.hiddenFlag? = some w ↔ w = v ∧ v.isFlag = true := by
  cases o with
  | literal u =>
    simp only [source, Operand.resolve, Expression.resolve, Except.pure_eq_ok] at h
    rw [← h]
    simp [Operand.hiddenFlag?]
  | expression e =>
    simp only [source, Operand.resolve] at h
    rw [Operand.hiddenFlag?, Option.filter_eq_some_iff]
    cases hconstant : e.constant? with
    | none =>
      have hv := e.isFlag_eq_false hcodec hconstant h
      simp [hv]
    | some u =>
      have hu := @Expression.resolve_of_constant? ctx e u hconstant
      rw [h, Except.ok.injEq] at hu
      rw [hu]
      grind
  | _ =>
    have hv := Operand.isFlag_eq_false hcodec _ (by simp [source, Operand.constant?]) h
    simp [Operand.hiddenFlag?, hv]

theorem writes_of_entry (hcodec : ctx.encodeInstant = Instant.toBson) {c : Clause}
    {e : String × Bson} (h : entry ctx (projection c) = .ok e)
    : c.field.resolve ctx = .ok e.1 ∧ c.Writes e.2 := by
  cases c with
  | keep f | drop f | dropIdentity =>
    simp only [projection, entry, Except.bind_eq_ok, Except.pure_eq_ok] at h
    rcases h with ⟨name, hname, rfl⟩
    refine ⟨hname, ?_⟩
    simp [Clause.Writes, Clause.flag?, Bson.isFlag, eq_comm]
  | computed o f | expression f o | literal f o =>
    simp only [projection, entry, Except.bind_eq_ok, Except.pure_eq_ok] at h
    rcases h with ⟨name, hname, v, hv, rfl⟩
    refine ⟨hname, ?_⟩
    exact hiddenFlag?_eq_some_iff hcodec hv

theorem projections_ofClauses (clauses : List Clause)
    : (ofClauses clauses).projections = clauses.map projection := by
  unfold ofClauses
  rw [List.map_eq_flatMap]
  apply Builder.foldl_append
  intro p c
  rfl

theorem body_eq_ok {p : Project} {d : Document}
    : p.body ctx = .ok d ↔ p.projections ≠ [] ∧
        ∃ es, p.projections.mapM (entry ctx) = .ok es ∧ .ofEntries es = d := by
  unfold body
  cases p.projections with
  | nil => simp
  | cons q qs => simp [-List.mapM_cons]

def isFor (ctx : Context) (name : String) (c : Clause) : Bool :=
  c.field.resolve ctx = .ok name

/-- The last clause whose field has the name. -/
def last? (ctx : Context) (name : String) (clauses : List Clause) : Option Clause :=
  clauses.reverse.find? (isFor ctx name)

/--
What stands under a name is a flag exactly if the last clause for the name writes this flag.
-/
theorem writes_last?_of_mem {clauses : List Clause} {d : Document} {name : String} {v : Bson}
    (hcodec : ctx.encodeInstant = Instant.toBson) (h : (ofClauses clauses).body ctx = .ok d)
    (hmem : (name, v) ∈ d) : ∃ c, last? ctx name clauses = some c ∧ c.Writes v := by
  rw [body_eq_ok, projections_ofClauses] at h
  rcases h with ⟨_, es, hes, rfl⟩
  rw [Except.mapM_eq_ok, List.forall₂_map_left_iff] at hes
  have hget := Document.get?_eq_some_of_mem (Document.nodup_keys_ofEntries es) hmem
  rw [Document.get?_ofEntries] at hget
  have hfind : Option.Rel Clause.Writes (last? ctx name clauses)
      (Document.get? es.reverse name) := by
    apply Document.rel_find?_get?
    rw [List.forall₂_reverse_iff]
    apply hes.imp
    intro c e he
    rcases writes_of_entry hcodec he with ⟨hname, hwrites⟩
    exact ⟨by simp [isFor, hname, eq_comm], hwrites⟩
  rw [hget] at hfind
  cases hlast : last? ctx name clauses with
  | none =>
    rw [hlast] at hfind
    cases hfind
  | some c =>
    rw [hlast] at hfind
    cases hfind with
    | some hwrites => exact ⟨c, rfl, hwrites⟩

def flagged : List Clause := [
  .keep (.name "total"),
  .drop (.name "price"),
  .literal (.name "one") (.int32 1),
  .expression (.property (.named "total")) (.operand (.literal (.bool true)))]

def flaggedBody : Document := [
  ("total", .bool true),
  ("price", .int32 0),
  ("one", .single "$literal" (.int32 1))]

theorem writes_last?_flagged
    : (ofClauses flagged).body {} = .ok flaggedBody ∧
        ∃ c, last? {} "total" flagged = some c ∧ c.Writes (.bool true) := by
  have h : (ofClauses flagged).body {} = .ok flaggedBody := by rfl
  exact ⟨h, writes_last?_of_mem rfl h (by simp [flaggedBody])⟩

/-- A constant that was turned into an expression comes out as the flag that keeps the field. -/
theorem hidden_constant_flags
    : ∃ d, (ofClauses [.computed (.expression (.operand (.literal (.int32 1)))) (.name "one")]).body
          {} = .ok d ∧
        ("one", .int32 1) ∈ d ∧ (Bson.int32 1).isFlag = true := by
  refine ⟨[("one", .int32 1)], by rfl, by simp, by rfl⟩

end Project

end Aggregation
