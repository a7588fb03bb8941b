import Aggregation.Expression.Resolve

/-!
This module contains the places in an expression at which an operand can stand. What an expression
resolves to depends on the operand at such a place by what the operand resolves to, and by nothing
else.
-/

namespace Aggregation

/--
A place between the items of a list.
-/
structure Gap (α : Type) where
  before : List α
  after : List α

namespace Gap

def fill (g : Gap α) (a : α) : List α :=
  g.before ++ a :: g.after

@[simp]
theorem isEmpty_fill (g : Gap α) (a : α) : (g.fill a).isEmpty = false := by
  simp [fill]

theorem exists_fill_eq {a : α} {l : List α} (h : a ∈ l) : ∃ g : Gap α, g.fill a = l := by
  rcases List.append_of_mem h with ⟨before, after, rfl⟩
  exact ⟨⟨before, after⟩, rfl⟩

theorem congr_fill {r : List α → β} (g : Gap α)
    (hcons : ∀ c l m, r l = r m → r (c :: l) = r (c :: m)) (hfill : ∀ l, r (a :: l) = r (b :: l))
    : r (g.fill a) = r (g.fill b) := by
  unfold fill
  induction g.before with
  | nil => apply hfill
  | cons c before ih =>
    apply hcons
    exact ih

theorem mapM_fill {f : α → Except ε β} (g : Gap α) (h : f a = f b)
    : (g.fill a).mapM f = (g.fill b).mapM f := by
  apply g.congr_fill
  . intro c l m hlm
    rw [List.mapM_cons, List.mapM_cons, hlm]
  . intro l
    rw [List.mapM_cons, List.mapM_cons, h]

end Gap

theorem Expression.resolve_ofOperand (ctx : Context) (o : Operand)
    : (ofOperand o).resolve ctx = o.resolve ctx := by
  cases o <;> rfl

variable {ctx : Context} {o o' : Operand} {e e' : Expression}

theorem Operand.resolveAll_fill (g : Gap Operand) (h : o.resolve ctx = o'.resolve ctx)
    : resolveAll ctx (g.fill o) = resolveAll ctx (g.fill o') := by
  apply g.congr_fill
  . intro c l m hlm
    rw [resolveAll, resolveAll, hlm]
  . intro l
    rw [resolveAll, resolveAll, h]

theorem Expression.resolveBranches_fill (g : Gap (Expression × Operand))
    (he : e.resolve ctx = e'.resolve ctx) (ho : o.resolve ctx = o'.resolve ctx)
    : resolveBranches ctx (g.fill (e, o)) = resolveBranches ctx (g.fill (e', o')) := by
  apply g.congr_fill
  . intro c l m hlm
    rw [resolveBranches, resolveBranches, hlm]
  . intro l
    rw [resolveBranches, resolveBranches, he, ho]

theorem Operand.resolveBindings_fill (g : Gap (String × Operand)) (name : String)
    (h : o.resolve ctx = o'.resolve ctx)
    : resolveBindings ctx (g.fill (name, o)) = resolveBindings ctx (g.fill (name, o')) := by
  apply g.congr_fill
  . intro c l m hlm
    rw [resolveBindings, resolveBindings, hlm]
  . intro l
    rw [resolveBindings, resolveBindings, h]

namespace Expression

/--
A place for an operand that is part of an expression, with the other parts of the expression.
-/
inductive Slot where
  | operand
  | listFirst (operator : ListOperator) (rest : List Operand)
  | listRest (operator : ListOperator) (first : Operand) (rest : Gap Operand)
  | pairFirst (operator : PairOperator) (second : Operand)
  | pairSecond (operator : PairOperator) (first : Operand)
  | not
  | condIf (consequence alternative : Operand)
  | condThen (condition alternative : Operand)
  | condElse (condition consequence : Operand)
  | ifNullFirst (rest : List Operand) (replacement : Operand)
  | ifNullRest (first : Operand) (rest : Gap Operand) (replacement : Operand)
  | ifNullReplacement (first : Operand) (rest : List Operand)
  | switchCase (branches : Gap (Expression × Operand)) (result : Operand) (default : Option Operand)
  | switchResult (branches : Gap (Expression × Operand)) (case : Expression)
      (default : Option Operand)
  | switchDefault (branches : List (Expression × Operand))
  | bindValue (bindings : Gap (String × Operand)) (name : String) (body : Option Expression)
  | bindBody (bindings : List (String × Operand))
  | accumulate (operator : Accumulator)

namespace Slot

def fill (o : Operand) : Slot → Expression
  | .operand => .operand o
  | .listFirst operator rest => .list operator o rest
  | .listRest operator first rest => .list operator first (rest.fill o)
  | .pairFirst operator second => .pair operator o second
  | .pairSecond operator first => .pair operator first o
  | .not => .not o
  | .condIf consequence alternative => .cond o consequence alternative
  | .condThen condition alternative => .cond condition o alternative
  | .condElse condition consequence => .cond condition consequence o
  | .ifNullFirst rest replacement => .ifNull o rest replacement
  | .ifNullRest first rest replacement => .ifNull first (rest.fill o) replacement
  | .ifNullReplacement first rest => .ifNull first rest o
  | .switchCase branches result default => .switch (branches.fill (.ofOperand o, result)) default
  | .switchResult branches case default => .switch (branches.fill (case, o)) default
  | .switchDefault branches => .switch branches (some o)
  | .bindValue bindings name body => .bind (bindings.fill (name, o)) body
  | .bindBody bindings => .bind bindings (some (.ofOperand o))
  | .accumulate operator => .accumulate operator o

theorem resolve_fill (s : Slot) (h : o.resolve ctx = o'.resolve ctx)
    : (s.fill o).resolve ctx = (s.fill o').resolve ctx := by
  have hexpression : (ofOperand o).resolve ctx = (ofOperand o').resolve ctx := by
    rw [resolve_ofOperand, resolve_ofOperand, h]
  cases s with
  | listRest operator first rest =>
    simp only [fill, resolve, Operand.resolveAll_fill rest h]
  | ifNullRest first rest replacement =>
    simp only [fill, resolve, Operand.resolveAll_fill rest h]
  | switchCase branches result default =>
    simp only [fill, resolve, Gap.isEmpty_fill, resolveBranches_fill branches hexpression rfl]
  | switchResult branches case default =>
    simp only [fill, resolve, Gap.isEmpty_fill, resolveBranches_fill branches rfl h]
  | switchDefault branches =>
    simp only [fill, resolve, Operand.resolveDefault, h]
  | bindValue bindings name body =>
    simp only [fill, resolve, Operand.resolveBindings_fill bindings name h]
  | bindBody bindings =>
    simp only [fill, resolve, resolveBody, hexpression]
  | _ => simp only [fill, resolve, h]

end Slot

/--
The operands that an expression is made of. An expression among its parts counts as an operand.
-/
def operands : Expression → List Operand
  | .operand o | .not o | .accumulate _ o => [o]
  | .list _ first rest => first :: rest
  | .pair _ first second => [first, second]
  | .cond condition consequence alternative => [condition, consequence, alternative]
  | .ifNull first rest replacement => first :: rest ++ [replacement]
  | .switch branches default =>
    branches.flatMap (fun b => [.expression b.1, b.2]) ++ default.toList
  | .bind bindings body => bindings.map Prod.snd ++ body.toList.map .expression
  | .literal _ | .metadata _ | .criteria _ | .countAll => []

theorem exists_slot {e : Expression} (h : o ∈ e.operands) : ∃ s : Slot, s.fill o = e := by
  cases e with
  | operand _ =>
    cases List.mem_singleton.mp h
    exact ⟨.operand, rfl⟩
  | not _ =>
    cases List.mem_singleton.mp h
    exact ⟨.not, rfl⟩
  | accumulate operator _ =>
    cases List.mem_singleton.mp h
    exact ⟨.accumulate operator, rfl⟩
  | list operator first rest =>
    rcases List.mem_cons.mp h with rfl | h
    . exact ⟨.listFirst operator rest, rfl⟩
    . rcases Gap.exists_fill_eq h with ⟨g, rfl⟩
      exact ⟨.listRest operator first g, rfl⟩
  | pair operator first second =>
    simp only [operands, List.mem_cons, List.not_mem_nil, or_false] at h
    rcases h with rfl | rfl
    . exact ⟨.pairFirst operator second, rfl⟩
    . exact ⟨.pairSecond operator first, rfl⟩
  | cond condition consequence alternative =>
    simp only [operands, List.mem_cons, List.not_mem_nil, or_false] at h
    rcases h with rfl | rfl | rfl
    . exact ⟨.condIf consequence alternative, rfl⟩
    . exact ⟨.condThen condition alternative, rfl⟩
    . exact ⟨.condElse condition consequence, rfl⟩
  | ifNull first rest replacement =>
    simp only [operands, List.cons_append, List.mem_cons, List.mem_append, List.not_mem_nil,
      or_false] at h
    rcases h with rfl | h | rfl
    . exact ⟨.ifNullFirst rest replacement, rfl⟩
    . rcases Gap.exists_fill_eq h with ⟨g, rfl⟩
      exact ⟨.ifNullRest first g replacement, rfl⟩
    . exact ⟨.ifNullReplacement first rest, rfl⟩
  | switch branches default =>
    simp only [operands, List.mem_append, List.mem_flatMap, List.mem_cons, List.not_mem_nil,
      or_false, Option.mem_toList] at h
    rcases h with ⟨⟨case, result⟩, hmem, rfl | rfl⟩ | h
    . rcases Gap.exists_fill_eq hmem with ⟨g, rfl⟩
      exact ⟨.switchCase g result default, rfl⟩
    . rcases Gap.exists_fill_eq hmem with ⟨g, rfl⟩
      exact ⟨.switchResult g case default, rfl⟩
    . cases h
      exact ⟨.switchDefault branches, rfl⟩
  | bind bindings body =>
    simp only [operands, List.mem_append, List.mem_map, Option.mem_toList] at h
    rcases h with ⟨⟨name, _⟩, hmem, rfl⟩ | ⟨e, h, rfl⟩
    . rcases Gap.exists_fill_eq hmem with ⟨g, rfl⟩
      exact ⟨.bindValue g name body, rfl⟩
    . cases h
      exact ⟨.bindBody bindings, rfl⟩
  | literal | metadata | criteria | countAll => cases h

end Expression

namespace Operand

/--
The operand at the end of a way through slots, the outermost first.
-/
def nest (slots : List Expression.Slot) (o : Operand) : Operand :=
  slots.foldr (fun s o => .expression (s.fill o)) o

theorem resolve_nest (slots : List Expression.Slot) (h : o.resolve ctx = o'.resolve ctx)
    : (o.nest slots).resolve ctx = (o'.nest slots).resolve ctx := by
  induction slots with
  | nil => exact h
  | cons s slots ih => exact s.resolve_fill ih

inductive Holds (root : Operand) : Operand → Prop where
  | root : Holds root root
  | part {e : Expression} {o : Operand} (h : Holds root (.expression e)) (ho : o ∈ e.operands)
      : Holds root o

theorem Holds.exists_nest {root : Operand} (h : root.Holds o)
    : ∃ slots, o.nest slots = root := by
  induction h with
  | root => exact ⟨[], rfl⟩
  | part _ ho ih =>
    rcases ih with ⟨slots, rfl⟩
    rcases Expression.exists_slot ho with ⟨s, rfl⟩
    refine ⟨slots ++ [s], ?_⟩
    rw [nest, nest, List.foldr_append]
    rfl

end Operand

end Aggregation
