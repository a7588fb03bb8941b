import Aggregation.Criteria.Basic
import Aggregation.Text.Pattern

/-!
This module contains the query form of criteria.
-/

namespace Aggregation

namespace Bson

/--
The items of a list of choices. A single value is a list of one.
-/
def choices : Bson → List Bson
  | .array items => items
  | v => [v]

end Bson

namespace Criteria

def regex (pattern : String) : Document :=
  [("$regex", .string pattern), ("$options", .string "i")]

/--
The condition that a query puts on the value of a field.
-/
def condition (operator : FieldOperator) (value : Bson) : Except Error Document :=
  match operator, value with
  | .eq, v => return .single "$eq" v
  | .ne, v => return .single "$ne" v
  | .gt, v => return .single "$gt" v
  | .gte, v => return .single "$gte" v
  | .lt, v => return .single "$lt" v
  | .lte, v => return .single "$lte" v
  | .contains, .string s => return regex (Text.patternOfPart s)
  | .contains, .array items => return .single "$all" (.array items)
  | .contains, _ => throw (.invalidCriteria (.notTextOrArray .contains))
  | .notContains, .string s =>
    return .single "$not" (.document (regex (Text.patternOfPart s)))
  | .notContains, .array items => return .single "$nin" (.array items)
  | .notContains, _ => throw (.invalidCriteria (.notTextOrArray .notContains))
  | .startsWith, .string s => return regex (Text.patternOfStart s)
  | .startsWith, _ => throw (.invalidCriteria (.notText .startsWith))
  | .endsWith, .string s => return regex (Text.patternOfEnd s)
  | .endsWith, _ => throw (.invalidCriteria (.notText .endsWith))
  | .anyOf, v => return .single "$in" (.array v.choices)
  | .noneOf, v => return .single "$nin" (.array v.choices)

def nonEmpty (combinator : Combinator) (parts : List Criteria) : Except Error Unit :=
  if parts.isEmpty then throw (.invalidCriteria (.noPart combinator)) else return ()

mutual

/--
There is no negation of whole queries, so a negation is written as "none of one".
-/
def query (ctx : Context) : Criteria → Except Error Document
  | .all parts => do
    nonEmpty .and parts
    return .single "$and" (.array (← queries ctx parts))
  | .any parts => do
    nonEmpty .or parts
    return .single "$or" (.array (← queries ctx parts))
  | .negation part => do
    return .single "$nor" (.array [.document (← part.query ctx)])
  | .presence f expected => do
    return .single (← f.resolve ctx) (.single "$exists" (.bool expected))
  | .field f operator value => do
    let path ← f.resolve ctx
    return .single path (.document (← condition operator value))

def queries (ctx : Context) : List Criteria → Except Error (List Bson)
  | [] => return []
  | c :: cs => do
    let q ← c.query ctx
    return .document q :: (← queries ctx cs)

end

end Criteria

end Aggregation
