import Aggregation.Bson.Document
import Aggregation.FieldPath

/-!
This module contains the operators of full text search.
-/

namespace Aggregation

namespace Search

inductive Bound where
  | gt
  | gte
  | lt
  | lte
  deriving DecidableEq

def Bound.name : Bound → String
  | .gt => "gt"
  | .gte => "gte"
  | .lt => "lt"
  | .lte => "lte"

structure Range where
  path : FieldPath
  bounds : List (Bound × Bson) := []

namespace Range

/--
A bound that is set again loses its old value and its old place.
-/
def set (r : Range) (bound : Bound) (value : Bson) : Range :=
  { r with bounds := r.bounds.filter (·.1 ≠ bound) ++ [(bound, value)] }

def ofBounds (path : FieldPath) (bounds : List (Bound × Bson)) : Range :=
  bounds.foldl (fun r b => r.set b.1 b.2) { path }

end Range

/--
Lists of clauses, where `σ` is the type of the operators they hold.
-/
structure Compound (σ : Type) where
  must : List σ := []
  mustNot : List σ := []
  should : List σ := []
  filter : List σ := []
  minimumShouldMatch : Option Int32 := none

namespace Compound

inductive Clause (σ : Type) where
  | must (operator : σ)
  | mustNot (operator : σ)
  | should (operator : σ)
  | filter (operator : σ)
  | minimumShouldMatch (count : Int32)

def declare (c : Compound σ) : Clause σ → Compound σ
  | .must operator => { c with must := c.must ++ [operator] }
  | .mustNot operator => { c with mustNot := c.mustNot ++ [operator] }
  | .should operator => { c with should := c.should ++ [operator] }
  | .filter operator => { c with filter := c.filter ++ [operator] }
  | .minimumShouldMatch count => { c with minimumShouldMatch := some count }

def ofClauses (clauses : List (Clause σ)) : Compound σ :=
  clauses.foldl declare {}

def isEmpty (c : Compound σ) : Bool :=
  c.must.isEmpty && c.mustNot.isEmpty && c.should.isEmpty && c.filter.isEmpty

end Compound

inductive Operator where
  | text (query : String) (path : FieldPath)
  | phrase (query : String) (path : FieldPath)
  | presence (path : FieldPath)
  | equals (path : FieldPath) (value : Bson)
  | range (r : Range)
  | compound (c : Compound Operator)

def Operator.name : Operator → String
  | .text .. => "text"
  | .phrase .. => "phrase"
  | .presence .. => "exists"
  | .equals .. => "equals"
  | .range .. => "range"
  | .compound .. => "compound"

end Search

end Aggregation
