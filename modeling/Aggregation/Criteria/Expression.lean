import Aggregation.Criteria.Query

/-!
This module contains the expression form of criteria.
-/

namespace Aggregation

namespace Bson

mutual

/--
The expression that denotes the value. Strings that look like references and documents are marked
as constants.
-/
def literal : Bson → Bson
  | .string s =>
    if s.toList.head? = some '$' then single "$literal" (.string s) else .string s
  | .document d => single "$literal" (.document d)
  | .array items => .array (literals items)
  | v => v

def literals : List Bson → List Bson
  | [] => []
  | v :: vs => v.literal :: literals vs

end

end Bson

namespace Criteria

def binary (operator : String) (a b : Bson) : Document :=
  .single operator (.array [a, b])

def regexMatch (reference : String) (pattern : String) : Document :=
  .single "$regexMatch" (.document
    [("input", .string reference), ("regex", .string pattern), ("options", .string "i")])

def containment (reference : String) : Bson → Except Error Document
  | .string s => return regexMatch reference (Text.patternOfPart s)
  | .array items =>
    return binary "$setIsSubset" (.array (Bson.literals items)) (.string reference)
  | _ => throw (.invalidCriteria (.notTextOrArray .contains))

/--
The test that the field contains the value.
-/
def contains (ctx : Context) (f : FieldPath) (value : Bson) : Except Error Document := do
  containment (← f.reference ctx) value

def membership (reference : String) (value : Bson) : Document :=
  binary "$in" (.string reference) (.array (Bson.literals value.choices))

/--
The test of the field that `reference` refers to.
-/
def test (ctx : Context) (reference : String) (operator : FieldOperator) (value : Bson) :
    Except Error Document :=
  match operator, value with
  | .eq, v => return binary "$eq" (.string reference) v.literal
  | .ne, v => return binary "$ne" (.string reference) v.literal
  | .gt, v => return binary "$gt" (.string reference) v.literal
  | .gte, v => return binary "$gte" (.string reference) v.literal
  | .lt, v => return binary "$lt" (.string reference) v.literal
  | .lte, v => return binary "$lte" (.string reference) v.literal
  | .contains, v => containment reference v
  -- What is negated is the test of a field whose name is the reference.
  | .notContains, v => do
    return .single "$not" (.array [.document (← contains ctx (.name reference) v)])
  | .startsWith, .string s => return regexMatch reference (Text.patternOfStart s)
  | .startsWith, _ => throw (.invalidCriteria (.notText .startsWith))
  | .endsWith, .string s => return regexMatch reference (Text.patternOfEnd s)
  | .endsWith, _ => throw (.invalidCriteria (.notText .endsWith))
  | .anyOf, v => return membership reference v
  | .noneOf, v => return .single "$not" (.array [.document (membership reference v)])

mutual

def expression (ctx : Context) : Criteria → Except Error Document
  | .all parts => do
    nonEmpty .and parts
    return .single "$and" (.array (← expressions ctx parts))
  | .any parts => do
    nonEmpty .or parts
    return .single "$or" (.array (← expressions ctx parts))
  | .negation part => do
    return .single "$not" (.array [.document (← part.expression ctx)])
  | .presence f expected => do
    let reference ← f.reference ctx
    let operator := if expected then "$ne" else "$eq"
    return binary operator (.single "$type" (.string reference)) (.string "missing")
  | .field f operator value => do
    test ctx (← f.reference ctx) operator value

def expressions (ctx : Context) : List Criteria → Except Error (List Bson)
  | [] => return []
  | c :: cs => do
    let e ← c.expression ctx
    return .document e :: (← expressions ctx cs)

end

end Criteria

end Aggregation
