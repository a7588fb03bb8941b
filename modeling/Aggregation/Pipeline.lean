import Aggregation.Bson.ExtendedJson
import Aggregation.Stage.Resolve

/-!
This module contains pipelines, which are lists of stages.
-/

namespace Aggregation

namespace Pipeline

/--
What can be put at the end of a pipeline: a stage, or the stages of another pipeline.
-/
inductive Step where
  | stage (s : Stage)
  | splice (p : Pipeline)

def append (p : Pipeline) : Step → Pipeline
  | .stage s => p ++ [s]
  | .splice q => p ++ q

def ofSteps (steps : List Step) : Pipeline :=
  steps.foldl append []

def stageNames (p : Pipeline) : List String :=
  p.map Stage.name

def build (ctx : Context) (p : Pipeline) : Except Error (List Document) :=
  Stage.resolveAll ctx p

/--
The JSON text of the pipeline in the default context.
-/
def toJson (p : Pipeline) : Except Error String := do
  return (Bson.array ((← p.build {}).map .document)).toJson.compact

end Pipeline

end Aggregation
