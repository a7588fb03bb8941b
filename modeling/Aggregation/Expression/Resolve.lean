import Aggregation.Expression.Basic

/-!
This module contains the resolution of operands and expressions to values. The parts are resolved in
the order in which they are written, and the first one that fails decides the error.
-/

namespace Aggregation

/--
A reference to a variable. Sigils that the name brings along are dropped.
-/
def variableReference (name : String) : String :=
  "$$" ++ String.ofList (name.toList.dropWhile (· == '$'))

mutual

def Operand.resolve (ctx : Context) : Operand → Except Error Bson
  | .literal v => return v
  | .field path => do return .string (← (FieldPath.name path).reference ctx)
  | .property p => do return .string ("$" ++ (← ctx.resolveProperty p))
  | .expression e => e.resolve ctx
  | .reference name => return .string (variableReference name)
  | .instant t => return ctx.encodeInstant t

def Expression.resolve (ctx : Context) : Expression → Except Error Bson
  | .operand o => o.resolve ctx
  | .list operator first rest => do
    let v ← first.resolve ctx
    let vs ← Operand.resolveAll ctx rest
    return .single operator.name (.array (v :: vs))
  | .pair operator first second => do
    let v ← first.resolve ctx
    let w ← second.resolve ctx
    return .single operator.name (.array [v, w])
  | .not o => do
    return .single "$not" (.array [← o.resolve ctx])
  | .cond condition consequence alternative => do
    let condition ← condition.resolve ctx
    let consequence ← consequence.resolve ctx
    let alternative ← alternative.resolve ctx
    return .single "$cond"
      (.document [("if", condition), ("then", consequence), ("else", alternative)])
  | .ifNull first rest replacement => do
    let v ← first.resolve ctx
    let vs ← Operand.resolveAll ctx rest
    let replacement ← replacement.resolve ctx
    return .single "$ifNull" (.array (v :: vs ++ [replacement]))
  | .switch branches default => do
    if branches.isEmpty then
      throw (.incompleteExpression "$switch" .noBranch)
    let branches ← Expression.resolveBranches ctx branches
    let default ← Operand.resolveDefault ctx default
    return .single "$switch" (.document (("branches", .array branches) :: default))
  | .bind bindings body => do
    let bindings ← Operand.resolveBindings ctx bindings
    let body ← Expression.resolveBody ctx body
    return .single "$let" (.document [("vars", .ofEntries bindings), ("in", body)])
  | .literal v => return .single "$literal" v
  | .metadata keyword => return .single "$meta" (.string keyword)
  | .criteria c => do return .document (← c.expression ctx)
  | .accumulate operator o => do return .single operator.name (← o.resolve ctx)
  | .countAll => return .single "$count" (.document [])

def Operand.resolveAll (ctx : Context) : List Operand → Except Error (List Bson)
  | [] => return []
  | o :: os => do
    let v ← o.resolve ctx
    return v :: (← Operand.resolveAll ctx os)

def Expression.resolveBranches (ctx : Context) :
    List (Expression × Operand) → Except Error (List Bson)
  | [] => return []
  | (e, o) :: branches => do
    let case ← e.resolve ctx
    let result ← o.resolve ctx
    let rest ← Expression.resolveBranches ctx branches
    return .document [("case", case), ("then", result)] :: rest

def Operand.resolveDefault (ctx : Context) : Option Operand → Except Error (List (String × Bson))
  | none => return []
  | some o => do return [("default", ← o.resolve ctx)]

def Operand.resolveBindings (ctx : Context) :
    List (String × Operand) → Except Error (List (String × Bson))
  | [] => return []
  | (name, o) :: bindings => do
    let v ← o.resolve ctx
    return (name, v) :: (← Operand.resolveBindings ctx bindings)

/--
A binding without a body has the empty document as its body.
-/
def Expression.resolveBody (ctx : Context) : Option Expression → Except Error Bson
  | none => return .document []
  | some e => e.resolve ctx

end

end Aggregation
