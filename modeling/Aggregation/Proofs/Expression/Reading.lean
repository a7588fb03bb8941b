import Aggregation.Expression.Resolve
import Aggregation.Proofs.Document
import Aggregation.Proofs.Except
import Aggregation.Proofs.FieldPath

/-!
This module contains the way back from the values of expressions to the expressions. What fields,
variables, marked constants and operators make up can be read off the value again, and so no two
such expressions have one value.
-/

namespace Aggregation

def ListOperator.ofName? (name : String) : Option ListOperator :=
  [.add, .multiply, .eq, .ne, .gt, .gte, .lt, .lte, .and, .or].find? fun operator =>
    operator.name = name

def PairOperator.ofName? (name : String) : Option PairOperator :=
  [.subtract, .divide, .modulo, .compare].find? fun operator => operator.name = name

def Operand.ofText? (s : String) : Option Operand :=
  match s.toList with
  | '$' :: '$' :: name => some (.reference (String.ofList name))
  | '$' :: path => some (.field (String.ofList path))
  | _ => none

def Expression.ofOperands? (key : String) (os : List Operand) : Option Expression :=
  match ListOperator.ofName? key, PairOperator.ofName? key, key, os with
  | some operator, _, _, first :: rest => some (.list operator first rest)
  | _, some operator, _, [first, second] => some (.pair operator first second)
  | _, _, "$not", [o] => some (.not o)
  | _, _, "$ifNull", first :: rest => rest.getLast?.map (.ifNull first rest.dropLast)
  | _, _, _, _ => none

mutual

def Operand.read : Bson → Option Operand
  | .string s => Operand.ofText? s
  | .document [("$literal", v)] => return .expression (.literal v)
  | .document [("$meta", .string keyword)] => return .expression (.metadata keyword)
  | .document [("$cond", .document [("if", v), ("then", w), ("else", u)])] => do
    return .expression (.cond (← Operand.read v) (← Operand.read w) (← Operand.read u))
  | .document [("$switch", .document (("branches", .array branches) :: default))] => do
    let branches ← Expression.readBranches branches
    return .expression (.switch branches (← Operand.readDefault default))
  -- No expression is written as the empty document, so it stands for a body that is missing.
  | .document [("$let", .document [("vars", .document bindings), ("in", .document [])])] => do
    return .expression (.bind (← Operand.readBindings bindings) none)
  | .document [("$let", .document [("vars", .document bindings), ("in", v)])] => do
    let bindings ← Operand.readBindings bindings
    return .expression (.bind bindings (some (.ofOperand (← Operand.read v))))
  | .document [(key, .array items)] => do
    return .expression (← Expression.ofOperands? key (← Operand.readAll items))
  | _ => none

def Operand.readAll : List Bson → Option (List Operand)
  | [] => return []
  | v :: vs => do
    return (← Operand.read v) :: (← Operand.readAll vs)

def Expression.readBranches : List Bson → Option (List (Expression × Operand))
  | [] => return []
  | .document [("case", v), ("then", w)] :: vs => do
    let branch := (.ofOperand (← Operand.read v), ← Operand.read w)
    return branch :: (← Expression.readBranches vs)
  | _ => none

def Operand.readDefault : List (String × Bson) → Option (Option Operand)
  | [] => return none
  | [("default", v)] => do return some (← Operand.read v)
  | _ => none

def Operand.readBindings : List (String × Bson) → Option (List (String × Operand))
  | [] => return []
  | (name, v) :: entries => do
    return (name, ← Operand.read v) :: (← Operand.readBindings entries)

end

def Expression.read (v : Bson) : Option Expression :=
  (Operand.read v).map .ofOperand

mutual

/--
The operand without the wrappings that make expressions of operands and operands of expressions.
-/
def Operand.bare : Operand → Operand
  | .expression (.operand o) => o.bare
  | .expression e => .expression e.bare
  | o => o

def Expression.bare : Expression → Expression
  | .operand o => .ofOperand o.bare
  | .list operator first rest => .list operator first.bare (Operand.bareAll rest)
  | .pair operator first second => .pair operator first.bare second.bare
  | .not o => .not o.bare
  | .cond condition consequence alternative =>
    .cond condition.bare consequence.bare alternative.bare
  | .ifNull first rest replacement => .ifNull first.bare (Operand.bareAll rest) replacement.bare
  | .switch branches default =>
    .switch (Expression.bareBranches branches) (Operand.bareDefault default)
  | .bind bindings body => .bind (Operand.bareBindings bindings) (Expression.bareBody body)
  | .literal v => .literal v
  | .metadata keyword => .metadata keyword
  | .criteria c => .criteria c
  | .accumulate operator o => .accumulate operator o.bare
  | .countAll => .countAll

def Operand.bareAll : List Operand → List Operand
  | [] => []
  | o :: os => o.bare :: Operand.bareAll os

def Expression.bareBranches : List (Expression × Operand) → List (Expression × Operand)
  | [] => []
  | (e, o) :: branches => (e.bare, o.bare) :: Expression.bareBranches branches

def Operand.bareDefault : Option Operand → Option Operand
  | none => none
  | some o => some o.bare

def Operand.bareBindings : List (String × Operand) → List (String × Operand)
  | [] => []
  | (name, o) :: bindings => (name, o.bare) :: Operand.bareBindings bindings

def Expression.bareBody : Option Expression → Option Expression
  | none => none
  | some e => some e.bare

end

mutual

inductive Operand.Readable : Operand → Prop
  | field (hpath : path ≠ "") (hsigil : path.toList.head? ≠ some '$')
      : Operand.Readable (.field path)
  | reference (hsigil : name.toList.head? ≠ some '$') : Operand.Readable (.reference name)
  | expression (h : Expression.Readable e) : Operand.Readable (.expression e)

inductive Expression.Readable : Expression → Prop
  | operand (h : Operand.Readable o) : Expression.Readable (.operand o)
  | list (hfirst : Operand.Readable first) (hrest : ∀ o ∈ rest, Operand.Readable o)
      : Expression.Readable (.list operator first rest)
  | pair (hfirst : Operand.Readable first) (hsecond : Operand.Readable second)
      : Expression.Readable (.pair operator first second)
  | not (h : Operand.Readable o) : Expression.Readable (.not o)
  | cond (hcondition : Operand.Readable condition) (hconsequence : Operand.Readable consequence)
      (halternative : Operand.Readable alternative)
      : Expression.Readable (.cond condition consequence alternative)
  | ifNull (hfirst : Operand.Readable first) (hrest : ∀ o ∈ rest, Operand.Readable o)
      (hreplacement : Operand.Readable replacement)
      : Expression.Readable (.ifNull first rest replacement)
  | switch {default : Option Operand} (hne : branches ≠ [])
      (hcases : ∀ b ∈ branches, Expression.Readable b.1)
      (hresults : ∀ b ∈ branches, Operand.Readable b.2)
      (hdefault : ∀ o ∈ default, Operand.Readable o)
      : Expression.Readable (.switch branches default)
  | bind (hnodup : (bindings.map Prod.fst).Nodup)
      (hbindings : ∀ b ∈ bindings, Operand.Readable b.2)
      (hbody : ∀ e ∈ body, Expression.Readable e) : Expression.Readable (.bind bindings body)
  | literal : Expression.Readable (.literal v)
  | metadata : Expression.Readable (.metadata keyword)

end

namespace Operand

theorem ofText?_field {path : String} (h : path.toList.head? ≠ some '$')
    : ofText? ("$" ++ path) = some (.field path) := by
  unfold ofText?
  rw [FieldPath.toList_sigil_append]
  split
  next name heq => simp_all
  next _ heq =>
    rw [List.cons.injEq] at heq
    rw [← heq.right, String.ofList_toList]
  next => simp_all

theorem ofText?_variableReference {name : String} (h : name.toList.head? ≠ some '$')
    : ofText? (variableReference name) = some (.reference name) := by
  have htext : (variableReference name).toList = '$' :: '$' :: name.toList := by
    rw [variableReference, FieldPath.dropWhile_sigil h, String.ofList_toList, String.toList_append]
    rfl
  rw [ofText?, htext]
  simp

theorem resolve_field {ctx : Context} {path : String} (hpath : path ≠ "")
    (hsigil : path.toList.head? ≠ some '$')
    : (field path).resolve ctx = .ok (.string ("$" ++ path)) := by
  simp [resolve, FieldPath.reference, FieldPath.resolve, FieldPath.marked, hpath, hsigil]

end Operand

namespace Expression

@[simp]
theorem ofOperands?_list (operator : ListOperator) (first : Operand) (rest : List Operand)
    : ofOperands? operator.name (first :: rest) = some (.list operator first rest) := by
  cases operator <;> rfl

@[simp]
theorem ofOperands?_pair (operator : PairOperator) (first second : Operand)
    : ofOperands? operator.name [first, second] = some (.pair operator first second) := by
  cases operator <;> rfl

@[simp]
theorem ofOperands?_not (o : Operand) : ofOperands? "$not" [o] = some (.not o) := by
  rfl

@[simp]
theorem ofOperands?_ifNull (first : Operand) (rest : List Operand) (replacement : Operand)
    : ofOperands? "$ifNull" (first :: (rest ++ [replacement])) =
        some (.ifNull first rest replacement) := by
  have h : ofOperands? "$ifNull" (first :: (rest ++ [replacement])) =
      (rest ++ [replacement]).getLast?.map (.ifNull first (rest ++ [replacement]).dropLast) := by
    rfl
  rw [h, List.getLast?_concat, List.dropLast_concat, Option.map_some]

theorem ofOperand_bare (e : Expression) : ofOperand (Operand.expression e).bare = e.bare := by
  cases e <;> rfl

end Expression

/-!
What is read from the value of each operator, given what is read from the values of its parts.
-/

namespace Operand

theorem readAll_concat {vs : List Bson} {v : Bson} {os : List Operand} {o : Operand}
    (hvs : readAll vs = some os) (hv : read v = some o)
    : readAll (vs ++ [v]) = some (os ++ [o]) := by
  have hmapM (vs : List Bson) : readAll vs = vs.mapM read := by
    induction vs with
    | nil => rfl
    | cons v vs ih => rw [readAll, List.mapM_cons, ih]
  rw [hmapM] at hvs ⊢
  rw [List.mapM_append, hvs, List.mapM_cons, hv]
  rfl

theorem read_empty : read (.document []) = none := by
  rfl

theorem read_single_array {key : String} (h : key ≠ "$literal") (items : List Bson)
    : read (.single key (.array items)) = do
        return .expression (← Expression.ofOperands? key (← readAll items)) := by
  rw [Bson.single, Document.single, read]
  exact h

theorem read_single_list (operator : ListOperator) {items : List Bson} {first : Operand}
    {rest : List Operand} (h : readAll items = some (first :: rest))
    : read (.single operator.name (.array items)) =
        some (.expression (.list operator first rest)) := by
  have hkey : operator.name ≠ "$literal" := by cases operator <;> decide
  rw [read_single_array hkey, h]
  simp

theorem read_single_pair (operator : PairOperator) {v w : Bson} {first second : Operand}
    (hv : read v = some first) (hw : read w = some second)
    : read (.single operator.name (.array [v, w])) =
        some (.expression (.pair operator first second)) := by
  have hkey : operator.name ≠ "$literal" := by cases operator <;> decide
  rw [read_single_array hkey, readAll, readAll, readAll, hv, hw]
  simp

theorem read_single_not {v : Bson} {o : Operand} (h : read v = some o)
    : read (.single "$not" (.array [v])) = some (.expression (.not o)) := by
  rw [read_single_array (by decide), readAll, readAll, h]
  simp

theorem read_single_ifNull {v w : Bson} {vs : List Bson} {first replacement : Operand}
    {rest : List Operand} (hv : read v = some first) (hvs : readAll vs = some rest)
    (hw : read w = some replacement)
    : read (.single "$ifNull" (.array (v :: vs ++ [w]))) =
        some (.expression (.ifNull first rest replacement)) := by
  rw [read_single_array (by decide), List.cons_append, readAll, hv, readAll_concat hvs hw]
  simp

theorem read_single_cond {v w u : Bson} {condition consequence alternative : Operand}
    (hv : read v = some condition) (hw : read w = some consequence)
    (hu : read u = some alternative)
    : read (.single "$cond" (.document [("if", v), ("then", w), ("else", u)])) =
        some (.expression (.cond condition consequence alternative)) := by
  rw [Bson.single, Document.single, read, hv, hw, hu]
  rfl

theorem read_single_switch {vs : List Bson} {es : List (String × Bson)}
    {branches : List (Expression × Operand)} {default : Option Operand}
    (hvs : Expression.readBranches vs = some branches) (hes : readDefault es = some default)
    : read (.single "$switch" (.document (("branches", .array vs) :: es))) =
        some (.expression (.switch branches default)) := by
  rw [Bson.single, Document.single, read, hvs, hes]
  rfl

theorem read_single_bind {es : List (String × Bson)} {v : Bson}
    {bindings : List (String × Operand)} {body : Operand}
    (hes : readBindings es = some bindings) (hv : read v = some body)
    : read (.single "$let" (.document [("vars", .document es), ("in", v)])) =
        some (.expression (.bind bindings (some (.ofOperand body)))) := by
  have hbody : ¬ v = .document [] := by
    intro h
    rw [h, read_empty] at hv
    cases hv
  rw [Bson.single, Document.single, read, hes, hv]
  . rfl
  . exact hbody

theorem read_single_bind_empty {es : List (String × Bson)} {bindings : List (String × Operand)}
    (hes : readBindings es = some bindings)
    : read (.single "$let" (.document [("vars", .document es), ("in", .document [])])) =
        some (.expression (.bind bindings none)) := by
  rw [Bson.single, Document.single, read, hes]
  rfl

end Operand

variable {ctx : Context}

mutual

theorem Operand.read_resolve (o : Operand) (h : o.Readable)
    : ∃ v, o.resolve ctx = .ok v ∧ Operand.read v = some o.bare := by
  cases h with
  | @field path hpath hsigil =>
    refine ⟨_, Operand.resolve_field hpath hsigil, ?_⟩
    rw [Operand.read, Operand.ofText?_field hsigil]
    rfl
  | @reference name hsigil =>
    refine ⟨.string (variableReference name), rfl, ?_⟩
    rw [Operand.read, Operand.ofText?_variableReference hsigil]
    rfl
  | @expression e he =>
    rw [Operand.resolve]
    exact e.read_resolve he

theorem Expression.read_resolve (e : Expression) (h : e.Readable)
    : ∃ v, e.resolve ctx = .ok v ∧ Operand.read v = some (Operand.expression e).bare := by
  cases h with
  | @operand o ho =>
    rw [Expression.resolve, Operand.bare]
    exact o.read_resolve ho
  | @list first rest operator hfirst hrest =>
    rcases first.read_resolve hfirst with ⟨v, hv, hread⟩
    rcases Operand.readAll_resolveAll rest hrest with ⟨vs, hvs, hreads⟩
    refine ⟨.single operator.name (.array (v :: vs)), ?_, ?_⟩
    . rw [Expression.resolve, hv, hvs]
      rfl
    . apply Operand.read_single_list
      rw [Operand.readAll, hread, hreads]
      rfl
  | @pair first second operator hfirst hsecond =>
    rcases first.read_resolve hfirst with ⟨v, hv, hread⟩
    rcases second.read_resolve hsecond with ⟨w, hw, hread'⟩
    refine ⟨.single operator.name (.array [v, w]), ?_, ?_⟩
    . rw [Expression.resolve, hv, hw]
      rfl
    . exact Operand.read_single_pair operator hread hread'
  | @not o ho =>
    rcases o.read_resolve ho with ⟨v, hv, hread⟩
    refine ⟨.single "$not" (.array [v]), ?_, ?_⟩
    . rw [Expression.resolve, hv]
      rfl
    . exact Operand.read_single_not hread
  | @cond condition consequence alternative hcondition hconsequence halternative =>
    rcases condition.read_resolve hcondition with ⟨v, hv, hread⟩
    rcases consequence.read_resolve hconsequence with ⟨w, hw, hread'⟩
    rcases alternative.read_resolve halternative with ⟨u, hu, hread''⟩
    refine ⟨.single "$cond" (.document [("if", v), ("then", w), ("else", u)]), ?_, ?_⟩
    . rw [Expression.resolve, hv, hw, hu]
      rfl
    . exact Operand.read_single_cond hread hread' hread''
  | @ifNull first rest replacement hfirst hrest hreplacement =>
    rcases first.read_resolve hfirst with ⟨v, hv, hread⟩
    rcases Operand.readAll_resolveAll rest hrest with ⟨vs, hvs, hreads⟩
    rcases replacement.read_resolve hreplacement with ⟨w, hw, hread'⟩
    refine ⟨.single "$ifNull" (.array (v :: vs ++ [w])), ?_, ?_⟩
    . rw [Expression.resolve, hv, hvs, hw]
      rfl
    . exact Operand.read_single_ifNull hread hreads hread'
  | @switch branches default hne hcases hresults hdefault =>
    rcases Expression.readBranches_resolveBranches branches hcases hresults with
      ⟨vs, hvs, hreads⟩
    rcases Operand.readDefault_resolveDefault default hdefault with ⟨es, hes, hreads'⟩
    refine ⟨.single "$switch" (.document (("branches", .array vs) :: es)), ?_, ?_⟩
    . rw [← List.isEmpty_eq_false_iff] at hne
      rw [Expression.resolve, hne, hvs, hes]
      rfl
    . exact Operand.read_single_switch hreads hreads'
  | @bind bindings body hnodup hbindings hbody =>
    rcases Operand.readBindings_resolveBindings bindings hbindings with ⟨es, hes, hkeys, hreads⟩
    -- The names are distinct, so no binding takes the place of another one.
    rw [← hkeys] at hnodup
    have hvars : Bson.ofEntries es = .document es := by
      rw [Bson.ofEntries, Document.ofEntries_of_nodup hnodup]
    cases body with
    | none =>
      refine ⟨.single "$let" (.document [("vars", .document es), ("in", .document [])]), ?_, ?_⟩
      . rw [Expression.resolve, hes, Expression.resolveBody, ← hvars]
        rfl
      . exact Operand.read_single_bind_empty hreads
    | some e =>
      rcases e.read_resolve (hbody e rfl) with ⟨v, hv, hread⟩
      refine ⟨.single "$let" (.document [("vars", .document es), ("in", v)]), ?_, ?_⟩
      . rw [Expression.resolve, hes, Expression.resolveBody, hv, ← hvars]
        rfl
      . rw [Operand.read_single_bind hreads hread, Expression.ofOperand_bare]
        rfl
  | @literal v =>
    refine ⟨.single "$literal" v, rfl, ?_⟩
    rw [Bson.single, Document.single, Operand.read]
    rfl
  | @metadata keyword =>
    refine ⟨.single "$meta" (.string keyword), rfl, ?_⟩
    rw [Bson.single, Document.single, Operand.read]
    rfl

theorem Operand.readAll_resolveAll (os : List Operand) (h : ∀ o ∈ os, o.Readable)
    : ∃ vs, Operand.resolveAll ctx os = .ok vs ∧
        Operand.readAll vs = some (Operand.bareAll os) := by
  cases os with
  | nil => exact ⟨[], rfl, rfl⟩
  | cons o os =>
    rw [List.forall_mem_cons] at h
    rcases o.read_resolve h.left with ⟨v, hv, hread⟩
    rcases Operand.readAll_resolveAll os h.right with ⟨vs, hvs, hreads⟩
    refine ⟨v :: vs, ?_, ?_⟩
    . rw [Operand.resolveAll, hv, hvs]
      rfl
    . rw [Operand.readAll, hread, hreads]
      rfl

theorem Expression.readBranches_resolveBranches (branches : List (Expression × Operand))
    (hcases : ∀ b ∈ branches, b.1.Readable) (hresults : ∀ b ∈ branches, b.2.Readable)
    : ∃ vs, Expression.resolveBranches ctx branches = .ok vs ∧
        Expression.readBranches vs = some (Expression.bareBranches branches) := by
  cases branches with
  | nil => exact ⟨[], rfl, rfl⟩
  | cons b branches =>
    rcases b with ⟨e, o⟩
    rw [List.forall_mem_cons] at hcases hresults
    rcases e.read_resolve hcases.left with ⟨v, hv, hread⟩
    rcases o.read_resolve hresults.left with ⟨w, hw, hread'⟩
    rcases Expression.readBranches_resolveBranches branches hcases.right hresults.right with
      ⟨vs, hvs, hreads⟩
    refine ⟨.document [("case", v), ("then", w)] :: vs, ?_, ?_⟩
    . rw [Expression.resolveBranches, hv, hw, hvs]
      rfl
    . rw [Expression.readBranches, hread, hread', hreads]
      rw [Expression.bareBranches, ← e.ofOperand_bare]
      rfl

theorem Operand.readDefault_resolveDefault (default : Option Operand)
    (h : ∀ o ∈ default, o.Readable)
    : ∃ es, Operand.resolveDefault ctx default = .ok es ∧
        Operand.readDefault es = some (Operand.bareDefault default) := by
  cases default with
  | none => exact ⟨[], rfl, rfl⟩
  | some o =>
    rcases o.read_resolve (h o rfl) with ⟨v, hv, hread⟩
    refine ⟨[("default", v)], ?_, ?_⟩
    . rw [Operand.resolveDefault, hv]
      rfl
    . rw [Operand.readDefault, hread]
      rfl

theorem Operand.readBindings_resolveBindings (bindings : List (String × Operand))
    (h : ∀ b ∈ bindings, b.2.Readable)
    : ∃ es, Operand.resolveBindings ctx bindings = .ok es ∧
        Document.keys es = bindings.map Prod.fst ∧
        Operand.readBindings es = some (Operand.bareBindings bindings) := by
  cases bindings with
  | nil => exact ⟨[], rfl, rfl, rfl⟩
  | cons b bindings =>
    rcases b with ⟨name, o⟩
    rw [List.forall_mem_cons] at h
    rcases o.read_resolve h.left with ⟨v, hv, hread⟩
    rcases Operand.readBindings_resolveBindings bindings h.right with ⟨es, hes, hkeys, hreads⟩
    refine ⟨(name, v) :: es, ?_, ?_, ?_⟩
    . rw [Operand.resolveBindings, hv, hes]
      rfl
    . rw [List.map_cons, ← hkeys]
      rfl
    . rw [Operand.readBindings, hread, hreads]
      rfl

end

namespace Expression

theorem read_of_readable {e : Expression} (h : e.Readable) (ctx : Context)
    : ∃ v, e.resolve ctx = .ok v ∧ read v = some e.bare ∧
        ∀ e' : Expression, e'.Readable → e'.resolve ctx = .ok v → e'.bare = e.bare := by
  have hread {e : Expression} (h : e.Readable)
      : ∃ v, e.resolve ctx = .ok v ∧ read v = some e.bare := by
    rcases e.read_resolve h with ⟨v, hv, hread⟩
    refine ⟨v, hv, ?_⟩
    rw [read, hread, Option.map_some, ofOperand_bare]
  rcases hread h with ⟨v, hv, hbare⟩
  refine ⟨v, hv, hbare, ?_⟩
  intro e' he' hv'
  rcases hread he' with ⟨v', hv'', hbare'⟩
  rw [hv', Except.ok.injEq] at hv''
  rw [← hv'', hbare, Option.some.injEq] at hbare'
  exact hbare'.symm

def discounted : Expression :=
  .bind
    [("total", .expression (.operand (.expression (.list .add (.field "price") [.field "tax"])))),
      ("rate", .expression (.switch
        [(.not (.field "sale"), .expression (.literal (.string "$full")))]
        (some (.expression (.ifNull (.field "reduced") [] (.expression (.bind [] none)))))))]
    (some (.pair .divide (.reference "total") (.expression (.operand (.reference "rate")))))

theorem readable_discounted : discounted.Readable := by
  have field {path : String} (h : path ≠ "" ∧ path.toList.head? ≠ some '$')
      : (Operand.field path).Readable := .field h.left h.right
  have total : Operand.Readable
      (.expression (.operand (.expression (.list .add (.field "price") [.field "tax"])))) := by
    refine .expression (.operand (.expression (.list (field (by decide)) ?_)))
    rw [List.forall_mem_singleton]
    exact field (by decide)
  have reduced : Operand.Readable
      (.expression (.ifNull (.field "reduced") [] (.expression (.bind [] none)))) := by
    refine .expression (.ifNull (field (by decide)) (by simp) (.expression (.bind ?_ ?_ ?_)))
    all_goals simp
  have rate : Operand.Readable (.expression (.switch
      [(.not (.field "sale"), .expression (.literal (.string "$full")))]
      (some (.expression (.ifNull (.field "reduced") [] (.expression (.bind [] none))))))) := by
    refine .expression (.switch (by simp) ?_ ?_ ?_)
    . rw [List.forall_mem_singleton]
      exact .not (field (by decide))
    . rw [List.forall_mem_singleton]
      exact .expression .literal
    . simpa using reduced
  have body : Expression.Readable
      (.pair .divide (.reference "total") (.expression (.operand (.reference "rate")))) := by
    exact .pair (.reference (by decide)) (.expression (.operand (.reference (by decide))))
  refine .bind (by decide) ?_ ?_
  . simpa using ⟨total, rate⟩
  . simpa using body

theorem read_of_readable_discounted
    : discounted.Readable ∧
        ∃ v, discounted.resolve {} = .ok v ∧ read v = some discounted.bare ∧
          ∀ e' : Expression, e'.Readable → e'.resolve {} = .ok v → e'.bare = discounted.bare := by
  exact ⟨readable_discounted, read_of_readable readable_discounted {}⟩

end Expression

end Aggregation
