import Aggregation.Expression.Binding
import Aggregation.Expression.Switch
import Aggregation.Proofs.Builder.Basic
import Aggregation.Stage.Resolve

/-!
This module contains the builders of stages, expressions and search operators that have settings,
and the theorem that what they resolve to does not depend on the order of calls to different ones.
-/

namespace Aggregation

namespace Lookup

inductive Setting where
  | source
  | localField
  | foreignField
  | bindings
  | pipeline
  | output
  deriving DecidableEq

def Clause.setting : Clause σ → Setting
  | .source _ => .source
  | .localField _ => .localField
  | .foreignField _ => .foreignField
  | .bind .. | .bindExpression .. => .bindings
  | .pipeline _ => .pipeline
  | .output _ => .output

def builder : Builder where
  State := Lookup Stage
  Call := Clause Stage
  Setting := Setting
  start := {}
  declare := declare
  setting := Clause.setting
  grows k := k = .bindings
  declare_comm _ c d h := by cases c <;> cases d <;> simp [Clause.setting] at h <;> rfl
  declare_absorb _ c d hslot h := by
    cases c <;> cases d <;> simp [Clause.setting] at hslot h <;> rfl

end Lookup

namespace Unwind

inductive Setting where
  | path
  | arrayIndex
  | preserveEmpty
  deriving DecidableEq

def Clause.setting : Clause → Setting
  | .path _ => .path
  | .arrayIndex _ => .arrayIndex
  | .preserveEmpty _ => .preserveEmpty

def builder : Builder where
  State := Unwind
  Call := Clause
  Setting := Setting
  start := {}
  declare := declare
  setting := Clause.setting
  grows _ := false
  declare_comm _ c d h := by cases c <;> cases d <;> simp [Clause.setting] at h <;> rfl
  declare_absorb _ c d _ h := by cases c <;> cases d <;> simp [Clause.setting] at h <;> rfl

end Unwind

namespace UnionWith

inductive Setting where
  | collection
  | pipeline
  deriving DecidableEq

def Clause.setting : Clause σ → Setting
  | .collection _ => .collection
  | .pipeline _ => .pipeline

def builder : Builder where
  State := UnionWith Stage
  Call := Clause Stage
  Setting := Setting
  start := {}
  declare := declare
  setting := Clause.setting
  grows _ := false
  declare_comm _ c d h := by cases c <;> cases d <;> simp [Clause.setting] at h <;> rfl
  declare_absorb _ c d _ h := by cases c <;> cases d <;> simp [Clause.setting] at h <;> rfl

end UnionWith

namespace Group

inductive Setting where
  | key
  | accumulators
  deriving DecidableEq

def Clause.setting : Clause → Setting
  | .noKey | .key _ | .keyExpression _ => .key
  | .accumulate .. => .accumulators

def builder : Builder where
  State := Group
  Call := Clause
  Setting := Setting
  start := {}
  declare := declare
  setting := Clause.setting
  grows k := k = .accumulators
  declare_comm _ c d h := by cases c <;> cases d <;> simp [Clause.setting] at h <;> rfl
  declare_absorb _ c d hslot h := by
    cases c <;> cases d <;> simp [Clause.setting] at hslot h <;> rfl

end Group

namespace Search

inductive Setting where
  | index
  | operator
  | count
  | returnStoredSource
  deriving DecidableEq

def Clause.setting : Clause → Setting
  | .index _ => .index
  | .operator _ => .operator
  | .count _ => .count
  | .returnStoredSource _ => .returnStoredSource

def builder (form : SearchForm) : Builder where
  State := Search
  Call := Clause
  Setting := Setting
  start := { form }
  declare := declare
  setting := Clause.setting
  grows _ := false
  declare_comm _ c d h := by cases c <;> cases d <;> simp [Clause.setting] at h <;> rfl
  declare_absorb _ c d _ h := by cases c <;> cases d <;> simp [Clause.setting] at h <;> rfl

namespace Compound

inductive Setting where
  | must
  | mustNot
  | should
  | filter
  | minimumShouldMatch
  deriving DecidableEq

def Clause.setting : Clause σ → Setting
  | .must _ => .must
  | .mustNot _ => .mustNot
  | .should _ => .should
  | .filter _ => .filter
  | .minimumShouldMatch _ => .minimumShouldMatch

def builder : Builder where
  State := Compound Operator
  Call := Clause Operator
  Setting := Setting
  start := {}
  declare := declare
  setting := Clause.setting
  grows k := k ≠ .minimumShouldMatch
  declare_comm _ c d h := by cases c <;> cases d <;> simp [Clause.setting] at h <;> rfl
  declare_absorb _ c d hslot h := by
    cases c <;> cases d <;> simp [Clause.setting] at hslot h; rfl

end Compound

end Search

namespace Switch

inductive Setting where
  | branches
  | default
  deriving DecidableEq

def Clause.setting : Clause → Setting
  | .branch .. | .branchValue .. => .branches
  | .default _ | .defaultValue _ => .default

def builder : Builder where
  State := Switch
  Call := Clause
  Setting := Setting
  start := {}
  declare := declare
  setting := Clause.setting
  grows k := k = .branches
  declare_comm _ c d h := by cases c <;> cases d <;> simp [Clause.setting] at h <;> rfl
  declare_absorb _ c d hslot h := by
    cases c <;> cases d <;> simp [Clause.setting] at hslot h <;> rfl

end Switch

namespace Binding

inductive Setting where
  | bindings
  | body
  deriving DecidableEq

def Clause.setting : Clause → Setting
  | .bind .. | .bindExpression .. => .bindings
  | .body _ => .body

def builder : Builder where
  State := Binding
  Call := Clause
  Setting := Setting
  start := {}
  declare := declare
  setting := Clause.setting
  grows k := k = .bindings
  declare_comm _ c d h := by cases c <;> cases d <;> simp [Clause.setting] at h <;> rfl
  declare_absorb _ c d hslot h := by
    cases c <;> cases d <;> simp [Clause.setting] at hslot h; rfl

end Binding

namespace Builder

/--
What can be configured setting by setting.
-/
inductive Kind where
  | lookup
  | unwind
  | unionWith
  | group
  | search (form : SearchForm)
  | compound
  | switch
  | binding

namespace Kind

def builder : Kind → Builder
  | .lookup => Lookup.builder
  | .unwind => Unwind.builder
  | .unionWith => UnionWith.builder
  | .group => Group.builder
  | .search form => Search.builder form
  | .compound => Search.Compound.builder
  | .switch => Switch.builder
  | .binding => Binding.builder

/--
What the calls resolve to, or `none` if it is left out of the pipeline.
-/
def resolve (ctx : Context) : (k : Kind) → List k.builder.Call → Except Error (Option Bson)
  | .lookup, cs => do return (← (Stage.lookup (Lookup.ofClauses cs)).resolve ctx).map .document
  | .unwind, cs => do return (← (Stage.unwind (Unwind.ofClauses cs)).resolve ctx).map .document
  | .unionWith, cs => do
    return (← (Stage.unionWith (UnionWith.ofClauses cs)).resolve ctx).map .document
  | .group, cs => do return (← (Stage.group (Group.ofClauses cs)).resolve ctx).map .document
  | .search form, cs => do
    return (← (Stage.search (Search.ofClauses form cs)).resolve ctx).map .document
  | .compound, cs => do
    return some (.document
      (← (Search.Operator.compound (Search.Compound.ofClauses cs)).resolve ctx))
  | .switch, cs => do return some (← (Switch.ofClauses cs).toExpression.resolve ctx)
  | .binding, cs => do return some (← (Binding.ofClauses cs).toExpression.resolve ctx)

theorem resolve_eq_of_agree (k : Kind) {cs cs' : List k.builder.Call} (h : k.builder.Agree cs cs')
    (ctx : Context) : k.resolve ctx cs = k.resolve ctx cs' := by
  have hstate := h.declareAll_eq k.builder.start
  cases k with
  | lookup =>
    have hlookup : Lookup.ofClauses cs = Lookup.ofClauses cs' := hstate
    rw [resolve, resolve, hlookup]
  | unwind =>
    have hunwind : Unwind.ofClauses cs = Unwind.ofClauses cs' := hstate
    rw [resolve, resolve, hunwind]
  | unionWith =>
    have hunion : UnionWith.ofClauses cs = UnionWith.ofClauses cs' := hstate
    rw [resolve, resolve, hunion]
  | group =>
    have hgroup : Group.ofClauses cs = Group.ofClauses cs' := hstate
    rw [resolve, resolve, hgroup]
  | search form =>
    have hsearch : Search.ofClauses form cs = Search.ofClauses form cs' := hstate
    rw [resolve, resolve, hsearch]
  | compound =>
    have hcompound : Search.Compound.ofClauses cs = Search.Compound.ofClauses cs' := hstate
    rw [resolve, resolve, hcompound]
  | switch =>
    have hswitch : Switch.ofClauses cs = Switch.ofClauses cs' := hstate
    rw [resolve, resolve, hswitch]
  | binding =>
    have hbinding : Binding.ofClauses cs = Binding.ofClauses cs' := hstate
    rw [resolve, resolve, hbinding]

def joinOrdered : List (Lookup.Clause Stage) := [
  .source "inventory",
  .localField (.name "item"),
  .bind "item" (.field "item"),
  .bind "ordered" (.property (.named "quantity")),
  .pipeline [.limit 1],
  .output (.name "stock")]

def joinScattered : List (Lookup.Clause Stage) := [
  .output (.name "draft"),
  .bind "item" (.field "item"),
  .pipeline [.sort {}],
  .output (.name "stock"),
  .source "warehouses",
  .bind "ordered" (.property (.named "quantity")),
  .pipeline [.limit 1],
  .source "inventory",
  .localField (.name "item")]

def joined : Bson :=
  .single "$lookup" (.document [
    ("from", .string "inventory"),
    ("localField", .string "item"),
    ("let", .document [("item", .string "$item"), ("ordered", .string "$quantity")]),
    ("pipeline", .array [.single "$limit" (.int64 1)]),
    ("as", .string "stock")])

theorem resolve_joinScattered
    : Kind.lookup.builder.Agree joinScattered joinOrdered ∧
        Kind.lookup.resolve {} joinScattered = .ok (some joined) := by
  have hagree : Kind.lookup.builder.Agree joinScattered joinOrdered := by
    constructor
    . intro k _
      cases k <;> rfl
    . intro k h
      cases k with
      | bindings => rfl
      | _ => cases h
  refine ⟨hagree, ?_⟩
  rw [Kind.lookup.resolve_eq_of_agree hagree]
  rfl

end Kind

end Builder

end Aggregation
