import Aggregation.Pipeline
import Aggregation.Record.Derive

/-!
This module contains the execution of pipelines. The engine that runs them is any function on some
state, and so is a call of the aggregator.
-/

namespace Aggregation

structure AggregateOptions where
  allowDiskUse : Option Bool := none
  batchSize : Option UInt32 := none
  comment : Option String := none
  deriving DecidableEq

structure Request where
  pipeline : List Document
  collection : String
  options : AggregateOptions

structure Executor (σ : Type) where
  run : Request → σ → Except Error (List Document) × σ
  shutdown : σ → Except Error Unit := fun _ => .ok ()

structure Aggregator (σ : Type) where
  executor : Executor σ
  context : Context := {}
  options : AggregateOptions := {}

namespace Aggregator

/--
All rows, or an error if one of them cannot be decoded.
-/
def decodeRows (decode : Document → Option α) (rows : List Document) : Except Error (List α) :=
  match rows.mapM decode with
  | some values => .ok values
  | none => .error .undecodableRow

/--
A pipeline that does not resolve never reaches the executor.
-/
def aggregatePipeline (a : Aggregator σ) (decode : Document → Option α) (p : Pipeline)
    (collection : String) (s : σ) : Except Error (List α) × σ :=
  match p.build a.context with
  | .error e => (.error e, s)
  | .ok pipeline =>
    let (rows, s) := a.executor.run { pipeline, collection, options := a.options } s
    (rows >>= decodeRows decode, s)

def aggregateIn (a : Aggregator σ) (decode : Document → Option α) (collection : String)
    (steps : List Pipeline.Step) (s : σ) : Except Error (List α) × σ :=
  a.aggregatePipeline decode (.ofSteps steps) collection s

def aggregate (a : Aggregator σ) (decode : Document → Option α) (r : Record)
    (steps : List Pipeline.Step) (s : σ) : Except Error (List α) × σ :=
  a.aggregateIn decode r.collection steps s

def shutdown (a : Aggregator σ) (s : σ) : Except Error Unit :=
  a.executor.shutdown s

end Aggregator

end Aggregation
