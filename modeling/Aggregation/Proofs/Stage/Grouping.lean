import Aggregation.Proofs.Builder.Basic
import Aggregation.Proofs.Document
import Aggregation.Proofs.Except
import Aggregation.Stage.Resolve

/-!
This module contains what is written for groups of documents. The key comes first, and no
accumulator takes its place, since none can have its name.
-/

namespace Aggregation

namespace Group

/-- The key that a clause leaves behind, which is `some none` if it takes the key away. -/
def Clause.key? : Clause → Option (Option Operand)
  | .noKey => some none
  | .key o => some (some o)
  | .keyExpression e => some (some (.expression e))
  | .accumulate _ _ => none

def Clause.accumulator? : Clause → Option (String × Expression)
  | .noKey | .key _ | .keyExpression _ => none
  | .accumulate name e => some (name, e)

def lastKey? (cs : List Clause) : Option Operand :=
  (cs.filterMap Clause.key?).getLast?.join

def accumulated (cs : List Clause) : List (String × Expression) :=
  cs.filterMap Clause.accumulator?

theorem key_ofClauses (cs : List Clause) : (ofClauses cs).key = lastKey? cs := by
  have hlast : some (ofClauses cs).key =
      (cs.filterMap Clause.key?).getLast?.or (some none) := by
    unfold ofClauses
    apply Builder.foldl_getLast? (fun g : Group => some g.key)
    intro g c
    cases c <;> rfl
  rw [lastKey?]
  cases hcs : (cs.filterMap Clause.key?).getLast? with
  | none => simpa [hcs] using hlast
  | some key => simpa [hcs] using hlast

theorem accumulators_ofClauses (cs : List Clause)
    : (ofClauses cs).accumulators = accumulated cs := by
  unfold ofClauses accumulated
  rw [List.filterMap_eq_flatMap_toList]
  apply Builder.foldl_append accumulators
  intro g c
  cases c <;> simp [declare, Clause.accumulator?]

variable {ctx : Context} {cs : List Clause}

/-- Without a key all documents are in one group. -/
inductive KeyIs (ctx : Context) (cs : List Clause) : Bson → Prop where
  | null (h : lastKey? cs = none) : KeyIs ctx cs .null
  | operand {o : Operand} {v : Bson} (h : lastKey? cs = some o) (hv : o.resolve ctx = .ok v)
    : KeyIs ctx cs v

def KeyFails (ctx : Context) (cs : List Clause) (e : Error) : Prop :=
  ∃ o, lastKey? cs = some o ∧ o.resolve ctx = .error e

/-- An accumulator with the name of the key is refused, whatever its expression is. -/
def Accepts (ctx : Context) (a : String × Expression) (v : Bson) : Prop :=
  a.1 ≠ identityField ∧ a.2.resolve ctx = .ok v

def Refuses (ctx : Context) (a : String × Expression) (e : Error) : Prop :=
  if a.1 = identityField then
    .incompleteStage "$group" .reservedAccumulator = e
  else
    a.2.resolve ctx = .error e

/-- Each name has the place of its first accumulator and the value of its last one. -/
structure Accumulates (ctx : Context) (cs : List Clause) (rest : Document) : Prop where
  reserved : identityField ∉ rest.keys
  nodup : rest.keys.Nodup
  keys : rest.keys = ((accumulated cs).map Prod.fst).eraseDups
  last (name : String) : Option.Rel (fun e v => e.resolve ctx = .ok v)
    ((accumulated cs).reverse.lookup name) (rest.get? name)

theorem resolveKey_eq_ok {v : Bson} : resolveKey ctx (lastKey? cs) = .ok v ↔ KeyIs ctx cs v := by
  constructor
  . intro h
    cases hkey : lastKey? cs with
    | none =>
      rw [hkey, resolveKey, Except.pure_eq_ok] at h
      rw [← h]
      apply KeyIs.null
      exact hkey
    | some o =>
      rw [hkey, resolveKey] at h
      apply KeyIs.operand hkey
      exact h
  . intro h
    cases h with
    | null hkey =>
      rw [hkey]
      rfl
    | operand hkey hv =>
      rw [hkey]
      exact hv

theorem resolveKey_eq_error {e : Error}
    : resolveKey ctx (lastKey? cs) = .error e ↔ KeyFails ctx cs e := by
  unfold KeyFails
  cases lastKey? cs with
  | none => simp [resolveKey]
  | some o => simp [resolveKey]

theorem entry_eq_ok {a : String × Expression} {e : String × Bson}
    : entry ctx a = .ok e ↔ Accepts ctx a e.2 ∧ a.1 = e.1 := by
  rcases e with ⟨name, v⟩
  unfold entry Accepts
  split
  . next h => simp [h]
  . next h => simp [h]

theorem entry_eq_error {a : String × Expression} {e : Error}
    : entry ctx a = .error e ↔ Refuses ctx a e := by
  unfold entry Refuses
  split
  . simp
  . simp

theorem exists_entry {a : String × Expression}
    : (∃ e, entry ctx a = .ok e) ↔ ∃ v, Accepts ctx a v := by
  simp only [entry_eq_ok, Prod.exists]
  grind

theorem mapM_entry_eq_error {as : List (String × Expression)} {e : Error}
    : as.mapM (entry ctx) = .error e ↔
        ∃ before a after, as = before ++ a :: after ∧ (∀ b ∈ before, ∃ v, Accepts ctx b v) ∧
          Refuses ctx a e := by
  rw [Except.mapM_eq_error]
  simp only [exists_entry, entry_eq_error]

theorem exists_mapM_entry {as : List (String × Expression)}
    : (∃ es, as.mapM (entry ctx) = .ok es) ↔ ∀ a ∈ as, ∃ v, Accepts ctx a v := by
  rw [Except.exists_mapM_eq_ok]
  simp only [exists_entry]

theorem forall₂_of_mapM_entry {as : List (String × Expression)} {es : List (String × Bson)}
    (h : as.mapM (entry ctx) = .ok es)
    : List.Forall₂ (fun a e => a.1 = e.1 ∧ a.2.resolve ctx = .ok e.2) as es := by
  rw [Except.mapM_eq_ok] at h
  apply h.imp
  intro a e he
  rw [entry_eq_ok] at he
  exact ⟨he.right, he.left.right⟩

theorem keys_of_mapM_entry {as : List (String × Expression)} {es : List (String × Bson)}
    (h : as.mapM (entry ctx) = .ok es) : Document.keys es = as.map Prod.fst := by
  apply Document.keys_eq_map_fst (R := fun e v => e.resolve ctx = .ok v)
  apply forall₂_of_mapM_entry h

theorem reserved_notMem_keys {as : List (String × Expression)} {es : List (String × Bson)}
    (h : as.mapM (entry ctx) = .ok es) : identityField ∉ Document.keys es := by
  have haccepts := exists_mapM_entry.mp ⟨es, h⟩
  rw [keys_of_mapM_entry h, List.mem_map]
  rintro ⟨a, ha, hname⟩
  rcases haccepts a ha with ⟨_, hne, _⟩
  exact hne hname

theorem accumulates_of_mapM {es : List (String × Bson)}
    (h : (accumulated cs).mapM (entry ctx) = .ok es) : Accumulates ctx cs (.ofEntries es) := by
  constructor
  . rw [Document.mem_keys_ofEntries]
    apply reserved_notMem_keys h
  . apply Document.nodup_keys_ofEntries
  . rw [Document.keys_ofEntries, keys_of_mapM_entry h]
  . intro name
    apply Document.rel_lookup_ofEntries
    apply forall₂_of_mapM_entry h

theorem body_eq_ok {d : Document}
    : (ofClauses cs).body ctx = .ok d ↔ ∃ key es, KeyIs ctx cs key ∧
        (accumulated cs).mapM (entry ctx) = .ok es ∧
          (identityField, key) :: Document.ofEntries es = d := by
  unfold body
  rw [key_ofClauses, accumulators_ofClauses]
  simp only [Except.bind_eq_ok, Except.pure_eq_ok, resolveKey_eq_ok]
  constructor
  . rintro ⟨key, hkey, es, hes, rfl⟩
    rw [Document.ofEntries_cons_of_notMem key (reserved_notMem_keys hes)]
    exact ⟨key, es, hkey, hes, rfl⟩
  . rintro ⟨key, es, hkey, hes, rfl⟩
    rw [← Document.ofEntries_cons_of_notMem key (reserved_notMem_keys hes)]
    exact ⟨key, hkey, es, hes, rfl⟩

theorem exists_body
    : (∃ d, (ofClauses cs).body ctx = .ok d) ↔
        (∃ key, KeyIs ctx cs key) ∧ ∀ a ∈ accumulated cs, ∃ v, Accepts ctx a v := by
  rw [← exists_mapM_entry]
  simp only [body_eq_ok]
  constructor
  . rintro ⟨_, key, es, hkey, hes, _⟩
    exact ⟨⟨key, hkey⟩, es, hes⟩
  . rintro ⟨⟨key, hkey⟩, es, hes⟩
    exact ⟨_, key, es, hkey, hes, rfl⟩

theorem body_eq_error {e : Error}
    : (ofClauses cs).body ctx = .error e ↔
        KeyFails ctx cs e ∨ (∃ key, KeyIs ctx cs key) ∧
          (accumulated cs).mapM (entry ctx) = .error e := by
  unfold body
  rw [key_ofClauses, accumulators_ofClauses]
  simp only [Except.bind_eq_error, Except.pure_eq_error, resolveKey_eq_ok, resolveKey_eq_error,
    and_false, exists_false, or_false, exists_and_right]

/--
The key is the first entry and the only one with its name, whenever it was set. The accumulators
follow in the order of their first declaration. Nothing is written if the key fails or an
accumulator is refused, and the first of these decides the error.
-/
theorem resolve_keeps_key (cs : List Clause) (ctx : Context)
    : ((∃ d, (Stage.group (ofClauses cs)).resolve ctx = .ok d) ↔
          (∃ key, KeyIs ctx cs key) ∧ ∀ a ∈ accumulated cs, ∃ v, Accepts ctx a v) ∧
        (∀ d, (Stage.group (ofClauses cs)).resolve ctx = .ok d →
          ∃ key rest, d = some (.single "$group" (.document ((identityField, key) :: rest))) ∧
            KeyIs ctx cs key ∧ Accumulates ctx cs rest) ∧
        ∀ e, (Stage.group (ofClauses cs)).resolve ctx = .error e ↔
          KeyFails ctx cs e ∨ (∃ key, KeyIs ctx cs key) ∧
            ∃ before a after, accumulated cs = before ++ a :: after ∧
              (∀ b ∈ before, ∃ v, Accepts ctx b v) ∧ Refuses ctx a e := by
  refine ⟨?_, ?_, ?_⟩
  . rw [← exists_body]
    simp [Stage.resolve]
  . intro d h
    simp only [Stage.resolve, Except.bind_eq_ok, Except.pure_eq_ok, body_eq_ok] at h
    rcases h with ⟨_, ⟨key, es, hkey, hes, rfl⟩, rfl⟩
    exact ⟨key, _, rfl, hkey, accumulates_of_mapM hes⟩
  . intro e
    rw [← mapM_entry_eq_error, ← body_eq_error]
    simp [Stage.resolve]

def byDay : List Clause := [
  .accumulate "total" (.accumulate .sum (.field "amount")),
  .key (.field "customer"),
  .noKey,
  .accumulate "orders" .countAll,
  .keyExpression (.operand (.field "day")),
  .accumulate "total" (.accumulate .max (.field "price"))]

def byDayRest : Document := [
  ("total", .single "$max" (.string "$price")),
  ("orders", .single "$count" (.document []))]

/-- The name is refused before the expression, which would fail as well, is looked at. -/
def displacing : List Clause := [
  .accumulate "orders" .countAll,
  .accumulate identityField (.switch [] none),
  .key (.field "day")]

theorem resolve_keeps_key_byDay
    : (Stage.group (ofClauses byDay)).resolve {} =
          .ok (some (.single "$group" (.document ((identityField, .string "$day") :: byDayRest)))) ∧
        KeyIs {} byDay (.string "$day") ∧ Accumulates {} byDay byDayRest ∧
        (Stage.group (ofClauses displacing)).resolve {} =
          .error (.incompleteStage "$group" .reservedAccumulator) := by
  have h : (Stage.group (ofClauses byDay)).resolve {} =
      .ok (some (.single "$group" (.document ((identityField, .string "$day") :: byDayRest)))) := by
    rfl
  rcases (resolve_keeps_key byDay {}).right.left _ h with ⟨key, rest, hd, hkey, hrest⟩
  cases hd
  refine ⟨h, hkey, hrest, ?_⟩
  rw [(resolve_keeps_key displacing {}).right.right]
  refine .inr ⟨⟨_, .operand rfl rfl⟩, [_], _, [], rfl, ?_, rfl⟩
  rw [List.forall_mem_singleton]
  exact ⟨_, by decide, rfl⟩

end Group

end Aggregation
