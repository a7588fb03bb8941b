import Aggregation.Search.Resolve

/-!
This module contains the stage that searches a collection. It has two names, one for the documents
found and one for the facts about them.
-/

namespace Aggregation

inductive SearchForm where
  | documents
  | facts
  deriving DecidableEq

def SearchForm.name : SearchForm → String
  | .documents => "$search"
  | .facts => "$searchMeta"

inductive SearchCount where
  | total
  | lowerBound
  deriving DecidableEq

def SearchCount.name : SearchCount → String
  | .total => "total"
  | .lowerBound => "lowerBound"

structure Search where
  form : SearchForm
  index : Option String := none
  operator : Option Search.Operator := none
  count : Option SearchCount := none
  returnStoredSource : Option Bool := none

namespace Search

inductive Clause where
  | index (name : String)
  | operator (o : Operator)
  | count (c : SearchCount)
  | returnStoredSource (enabled : Bool)

def declare (s : Search) : Clause → Search
  | .index name => { s with index := some name }
  | .operator o => { s with operator := some o }
  | .count c => { s with count := some c }
  | .returnStoredSource enabled => { s with returnStoredSource := some enabled }

def ofClauses (form : SearchForm) (clauses : List Clause) : Search :=
  clauses.foldl declare { form }

def body (ctx : Context) (s : Search) : Except Error Document := do
  match s.operator with
  | none => throw (.incompleteStage s.form.name .noSearchOperator)
  | some operator =>
    let operator ← operator.resolve ctx
    return (s.index.toList.map fun i => ("index", .string i)) ++ operator ++
      (s.count.toList.map fun c => ("count", .single "type" (.string c.name))) ++
      (s.returnStoredSource.toList.map fun b => ("returnStoredSource", .bool b))

end Search

end Aggregation
