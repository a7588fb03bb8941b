import Aggregation.Proofs.Document
import Aggregation.Proofs.FieldPath
import Aggregation.Proofs.Stage.Position

/-!
This module contains what binds variables: a binding does for its body, and the stage that joins
documents for its pipeline. References drop the sigils that a name begins with, and the documents of
the variables keep them.
-/

namespace Aggregation

variable {ctx : Context}

/--
The name as it stands in a reference.
-/
def referredName (name : String) : String :=
  String.ofList (name.toList.dropWhile (· == '$'))

theorem variableReference_eq (name : String)
    : variableReference name = "$$" ++ referredName name := by
  rfl

theorem referredName_eq_self {name : String} (h : name.toList.head? ≠ some '$')
    : referredName name = name := by
  rw [referredName, FieldPath.dropWhile_sigil h, String.ofList_toList]

namespace Document

/-- A reference to the name is one to a key of the document. -/
def Binds (ctx : Context) (vars : Document) (name : String) : Prop :=
  ∃ key ∈ vars.keys, (Operand.reference name).resolve ctx = .ok (.string ("$$" ++ key))

theorem binds_iff {vars : Document} {name : String}
    : vars.Binds ctx name ↔ referredName name ∈ vars.keys := by
  unfold Binds
  simp only [Operand.resolve, variableReference_eq, Except.pure_eq_ok, Bson.string.injEq]
  constructor
  . rintro ⟨key, hkey, heq⟩
    rw [String.append_right_inj] at heq
    rw [heq]
    exact hkey
  . intro h
    exact ⟨referredName name, h, rfl⟩

end Document

theorem Operand.resolveBindings_eq_ok {bindings : List (String × Operand)}
    {es : List (String × Bson)}
    : resolveBindings ctx bindings = .ok es ↔
        List.Forall₂ (fun b e => b.1 = e.1 ∧ b.2.resolve ctx = .ok e.2) bindings es := by
  induction bindings generalizing es with
  | nil => cases es <;> simp [resolveBindings]
  | cons b bindings ih =>
    rcases b with ⟨name, o⟩
    rw [resolveBindings]
    cases es with
    | nil => simp
    | cons e es =>
      rcases e with ⟨key, v⟩
      rw [List.forall₂_cons, ← ih]
      simp only [Except.bind_eq_ok, Except.pure_eq_ok, List.cons.injEq, Prod.mk.injEq]
      grind

theorem Operand.keys_of_resolveBindings {bindings : List (String × Operand)}
    {es : List (String × Bson)} (h : resolveBindings ctx bindings = .ok es)
    : Document.keys es = bindings.map Prod.fst := by
  rw [resolveBindings_eq_ok] at h
  apply Document.keys_eq_map_fst (R := fun o v => o.resolve ctx = .ok v)
  exact h

/-- The operand that a name stands for is the last one bound to it. -/
theorem Operand.rel_lookup_ofEntries {bindings : List (String × Operand)}
    {es : List (String × Bson)} (h : resolveBindings ctx bindings = .ok es) (name : String)
    : Option.Rel (fun o v => o.resolve ctx = .ok v) (bindings.reverse.lookup name)
        ((Document.ofEntries es).get? name) := by
  rw [resolveBindings_eq_ok] at h
  apply Document.rel_lookup_ofEntries
  exact h

/-!
The operands that a pipeline refers to variables by.
-/

def Projection.source? : Projection → Option Operand
  | .computed _ source => some source
  | .keep _ | .drop _ => none

/-- Unlike the places for operands, these include the sources of computed fields. -/
def Stage.sources : Stage → List Operand
  | .project p => p.projections.filterMap Projection.source?
  | s => s.operands

def Pipeline.Refers (p : Pipeline) (name : String) : Prop :=
  ∃ s, p.Holds s ∧ ∃ root ∈ s.sources, root.Holds (.reference name)

inductive Binder where
  | expression (bindings : List (String × Operand)) (body : Option Expression)
  | stage (l : Lookup Stage)

namespace Binder

def bindings : Binder → List (String × Operand)
  | .expression bindings _ => bindings
  | .stage l => l.bindings

def names (b : Binder) : List String :=
  b.bindings.map Prod.fst

def Resolves (ctx : Context) : Binder → Prop
  | .expression bindings body => ∃ v, (Expression.bind bindings body).resolve ctx = .ok v
  | .stage l => ∃ d, (Stage.lookup l).resolve ctx = .ok d

/-- What the body or the pipeline refers to, at any depth. -/
def Refers : Binder → String → Prop
  | .expression _ body, name => ∃ e ∈ body, (Operand.expression e).Holds (.reference name)
  | .stage l, name => ∃ p ∈ l.pipeline, Pipeline.Refers p name

/-- The document of the variables. The stage leaves it out if it is empty. -/
inductive Writes (ctx : Context) : Binder → Document → Prop where
  | expression {bindings : List (String × Operand)} {body : Option Expression} {vars : Document}
      {v : Bson} (h : (Expression.bind bindings body).resolve ctx =
        .ok (.single "$let" (.document [("vars", .document vars), ("in", v)])))
      : Writes ctx (.expression bindings body) vars
  | stage {l : Lookup Stage} {body vars : Document}
      (h : (Stage.lookup l).resolve ctx = .ok (some (.single "$lookup" (.document body))))
      (hlet : (body.get? "let").getD (.document []) = .document vars) : Writes ctx (.stage l) vars

theorem get?_resolveInner_let {p : Option Pipeline} {es : List (String × Bson)}
    (h : Stage.resolveInner ctx p = .ok es) : Document.get? es "let" = none := by
  cases p with
  | none =>
    rw [Stage.resolveInner, Except.pure_eq_ok] at h
    rw [← h, Document.get?_nil]
  | some p =>
    simp only [Stage.resolveInner, Except.bind_eq_ok, Except.pure_eq_ok] at h
    rcases h with ⟨ds, _, rfl⟩
    simp

theorem get?_letEntry_let (es : List (String × Bson))
    : (Document.get? (Lookup.letEntry es) "let").getD (.document []) =
        .document (Document.ofEntries es) := by
  unfold Lookup.letEntry
  cases es with
  | nil => rfl
  | cons e es => simp [Bson.ofEntries]

theorem exists_writes {b : Binder} (h : b.Resolves ctx)
    : ∃ es, Operand.resolveBindings ctx b.bindings = .ok es ∧ b.Writes ctx (.ofEntries es) := by
  cases b with
  | expression bindings body =>
    rcases h with ⟨v, h⟩
    have hresolve := h
    simp only [Expression.resolve, Except.bind_eq_ok, Except.pure_eq_ok] at h
    rcases h with ⟨es, hes, w, _, rfl⟩
    exact ⟨es, hes, .expression hresolve⟩
  | stage l =>
    rcases h with ⟨d, h⟩
    have hresolve := h
    simp only [Stage.resolve_lookup, Except.bind_eq_ok, Except.pure_eq_ok] at h
    rcases h with ⟨body, hbody, rfl⟩
    unfold Lookup.body at hbody
    cases houtput : l.output with
    | none => simp [houtput] at hbody
    | some output =>
      simp only [houtput, Except.bind_eq_ok, Except.pure_eq_ok] at hbody
      rcases hbody with ⟨_, _, _, _, es, hes, inner, hinner, _, _, rfl⟩
      refine ⟨es, hes, .stage hresolve ?_⟩
      -- No other entry of the stage has the key of the variables.
      rw [← get?_letEntry_let]
      simp [get?_resolveInner_let hinner]

/--
A reference finds what was last bound to its name without sigils.
-/
theorem binds_iff_referredName_mem {b : Binder} (h : b.Resolves ctx)
    : ∃ vars, b.Writes ctx vars ∧
        (∀ name, vars.Binds ctx name ↔ referredName name ∈ b.names) ∧
        (∀ name ∈ b.names, name.toList.head? ≠ some '$' → vars.Binds ctx name) ∧
        ((∀ name, b.Refers name → vars.Binds ctx name) ↔
          ∀ name, b.Refers name → referredName name ∈ b.names) ∧
        ∀ name, Option.Rel (fun o v => o.resolve ctx = .ok v) (b.bindings.reverse.lookup name)
          (vars.get? name) := by
  rcases exists_writes h with ⟨es, hes, hwrites⟩
  have hbinds (name : String) : (Document.ofEntries es).Binds ctx name ↔
      referredName name ∈ b.names := by
    rw [Document.binds_iff, Document.mem_keys_ofEntries, Operand.keys_of_resolveBindings hes, names]
  refine ⟨.ofEntries es, hwrites, hbinds, ?_, ?_, Operand.rel_lookup_ofEntries hes⟩
  . intro name hname hsigil
    rw [hbinds, referredName_eq_self hsigil]
    exact hname
  . simp only [hbinds]

def stock : Binder :=
  .stage {
    source := some "warehouses"
    bindings := [("item", .field "item"), ("ordered", .property (.named "quantity"))]
    pipeline := some [.filterExpression (.list .gt (.field "instock") [.reference "$$ordered"])]
    output := some (.name "stock") }

theorem stock_binds_ordered
    : stock.Resolves {} ∧ stock.Refers "$$ordered" ∧
        ∃ vars, stock.Writes {} vars ∧ vars.Binds {} "$$ordered" := by
  have hresolves : stock.Resolves {} := ⟨_, rfl⟩
  have hrefers : stock.Refers "$$ordered" := by
    refine ⟨_, rfl, _, .stage List.mem_cons_self, _, List.mem_cons_self, ?_⟩
    apply Operand.Holds.part .root
    simp [Expression.operands]
  rcases binds_iff_referredName_mem hresolves with ⟨vars, hwrites, hbinds, _⟩
  refine ⟨hresolves, hrefers, vars, hwrites, ?_⟩
  rw [hbinds]
  decide

def sigilled : Expression :=
  .bind [("$total", .field "price")] (some (.reference "$total"))

def sigilledVars : Document :=
  [("$total", .string "$price")]

/--
A name that is bound with a sigil is not the one that it refers to.
-/
theorem sigil_not_bound
    : sigilled.resolve {} =
          .ok (.single "$let" (.document
            [("vars", .document sigilledVars), ("in", .string "$$total")])) ∧
        ¬ sigilledVars.Binds {} "$total" := by
  constructor
  . rfl
  . rw [Document.binds_iff]
    decide

end Binder

end Aggregation
