import Aggregation.Search.Stage
import Aggregation.Stage.Assign
import Aggregation.Stage.Facet
import Aggregation.Stage.Group
import Aggregation.Stage.Lookup
import Aggregation.Stage.Project
import Aggregation.Stage.SortBy
import Aggregation.Stage.UnionWith
import Aggregation.Stage.Unwind

/-!
This module contains the stages of pipelines. Three of them have pipelines inside.
-/

namespace Aggregation

inductive Stage where
  | project (p : Project)
  | assign (a : Assign)
  | group (g : Group)
  | sort (s : SortBy)
  | lookup (l : Lookup Stage)
  | unwind (u : Unwind)
  | unionWith (u : UnionWith Stage)
  | facet (f : Facet Stage)
  | search (s : Search)
  | count (field : String)
  | filter (c : Criteria)
  | filterExpression (e : Expression)
  | limit (n : Int64)
  | skip (n : Int64)
  | sample (n : Int64)
  | unset (fields : List FieldPath)
  | replaceRoot (o : Operand)
  | replaceWith (o : Operand)
  | sortByCount (o : Operand)
  | documents (ds : List Document)
  | raw (d : Document)

namespace Stage

def name : Stage → String
  | .project _ => "$project"
  | .assign a => a.form.name
  | .group _ => "$group"
  | .sort _ => "$sort"
  | .lookup _ => "$lookup"
  | .unwind _ => "$unwind"
  | .unionWith _ => "$unionWith"
  | .facet _ => "$facet"
  | .search s => s.form.name
  | .count _ => "$count"
  | .filter _ => "$match"
  | .filterExpression _ => "$match"
  | .limit _ => "$limit"
  | .skip _ => "$skip"
  | .sample _ => "$sample"
  | .unset _ => "$unset"
  | .replaceRoot _ => "$replaceRoot"
  | .replaceWith _ => "$replaceWith"
  | .sortByCount _ => "$sortByCount"
  | .documents _ => "$documents"
  | .raw _ => "raw"

end Stage

abbrev Pipeline := List Stage

end Aggregation
