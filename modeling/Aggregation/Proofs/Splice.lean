import Aggregation.Pipeline
import Aggregation.Proofs.Builder.Basic
import Aggregation.Proofs.Stage.Basic
import Mathlib.Algebra.Ring.Nat

/-!
This module contains pipelines that are put together from other pipelines. Their stages are those of
the parts in the order of the calls, and they are built part by part.
-/

namespace Aggregation

namespace Pipeline

variable {ctx : Context} {p q : Pipeline} {ds : List Document}

/--
The pipeline has the stages of the parts, and it is built like them one after the other, up to the
first one that fails.
-/
structure InTurn (ctx : Context) (parts : List Pipeline) (p : Pipeline) : Prop where
  length : p.length = (parts.map List.length).sum
  stageNames : p.stageNames = parts.flatMap stageNames
  build_ok (ds : List Document) : p.build ctx = .ok ds ↔
    ∃ dss, List.Forall₂ (fun part es => part.build ctx = .ok es) parts dss ∧ dss.flatten = ds
  build_error (e : Error) : p.build ctx = .error e ↔
    ∃ before part after, parts = before ++ part :: after ∧
      (∀ q ∈ before, ∃ es, q.build ctx = .ok es) ∧ part.build ctx = .error e

theorem build_append (ctx : Context) (p q : Pipeline)
    : build ctx (p ++ q) = (do
        let ds ← p.build ctx
        let es ← q.build ctx
        return ds ++ es) := by
  simp only [build, Stage.resolveAll_eq_map, List.mapM_append]
  simp

theorem build_flatten (ctx : Context) (parts : List Pipeline)
    : build ctx parts.flatten = List.flatten <$> parts.mapM (build ctx) := by
  induction parts with
  | nil => rfl
  | cons part parts ih =>
    rw [List.flatten_cons, build_append, ih, List.mapM_cons]
    simp

theorem inTurn_flatten (ctx : Context) (parts : List Pipeline)
    : InTurn ctx parts parts.flatten := by
  constructor
  . apply List.length_flatten
  . apply List.map_flatten
  . intro ds
    rw [build_flatten, Except.map_eq_ok]
    simp only [Except.mapM_eq_ok]
  . intro e
    rw [build_flatten, Except.map_eq_error, Except.mapM_eq_error]

theorem build_of_prefix (h : p <+: q) (hq : q.build ctx = .ok ds)
    : ∃ es, p.build ctx = .ok es ∧ es <+: ds := by
  rcases h with ⟨rest, rfl⟩
  rw [build_append] at hq
  simp only [Except.bind_eq_ok, Except.pure_eq_ok] at hq
  rcases hq with ⟨es, hes, fs, _, rfl⟩
  exact ⟨es, hes, List.prefix_append es fs⟩

def Step.part : Step → Pipeline
  | .stage s => [s]
  | .splice p => p

theorem append_eq (p : Pipeline) (step : Step) : p.append step = p ++ step.part := by
  cases step <;> rfl

theorem ofSteps_eq_flatten (steps : List Step) : ofSteps steps = (steps.map Step.part).flatten := by
  have hfold := Builder.foldl_append id Step.part append_eq [] steps
  rw [← List.flatMap_def]
  exact hfold

/--
A call on the builder of a pipeline. What is spliced is built by calls of its own.
-/
inductive Call where
  | stage (s : Stage)
  | splice (calls : List Call)

/--
The pipelines that were finished to be spliced, and what there is of the one that is being built.
-/
structure Bench where
  finished : List Pipeline := []
  current : Pipeline := []

mutual

def Call.run (b : Bench) : Call → Bench
  | .stage s => { b with current := append b.current (.stage s) }
  | .splice calls =>
    let inner := runAll { b with current := [] } calls
    { finished := inner.finished ++ [inner.current]
      current := append b.current (.splice inner.current) }

def runAll (b : Bench) : List Call → Bench
  | [] => b
  | c :: cs => runAll (c.run b) cs

end

def ofCalls (calls : List Call) : Pipeline :=
  (runAll {} calls).current

def Call.step : Call → Step
  | .stage s => .stage s
  | .splice calls => .splice (ofCalls calls)

mutual

/-- The stages in the order of the calls, at any depth. -/
def Call.stages : Call → List Stage
  | .stage s => [s]
  | .splice calls => stagesOfAll calls

def stagesOfAll : List Call → List Stage
  | [] => []
  | c :: cs => c.stages ++ stagesOfAll cs

end

mutual

/-- The calls of each pipeline that is spliced, at any depth, in the order they are finished. -/
def Call.splices : Call → List (List Call)
  | .stage _ => []
  | .splice calls => splicesOfAll calls ++ [calls]

def splicesOfAll : List Call → List (List Call)
  | [] => []
  | c :: cs => c.splices ++ splicesOfAll cs

end

mutual

theorem Call.run_eq (b : Bench) (c : Call)
    : c.run b = ⟨b.finished ++ c.splices.map stagesOfAll, b.current ++ c.stages⟩ := by
  cases c with
  | stage s => simp [Call.run, Call.splices, Call.stages, append]
  | splice calls =>
    rw [Call.run, runAll_eq, Call.splices, Call.stages]
    simp [append]

theorem runAll_eq (b : Bench) (cs : List Call)
    : runAll b cs =
        ⟨b.finished ++ (splicesOfAll cs).map stagesOfAll, b.current ++ stagesOfAll cs⟩ := by
  cases cs with
  | nil => simp [runAll, splicesOfAll, stagesOfAll]
  | cons c cs =>
    rw [runAll, runAll_eq, Call.run_eq, splicesOfAll, stagesOfAll]
    simp

end

theorem ofCalls_eq_stagesOfAll (calls : List Call) : ofCalls calls = stagesOfAll calls := by
  rw [ofCalls, runAll_eq]
  rfl

/-- What was finished, before or by the calls, stays what it was. -/
theorem finished_runAll (b : Bench) (calls : List Call)
    : (runAll b calls).finished = b.finished ++ (splicesOfAll calls).map ofCalls := by
  rw [runAll_eq]
  simp [ofCalls_eq_stagesOfAll]

theorem part_step (c : Call) : c.step.part = c.stages := by
  cases c with
  | stage s => rfl
  | splice calls => rw [Call.step, Step.part, Call.stages, ofCalls_eq_stagesOfAll]

theorem ofCalls_eq_ofSteps (calls : List Call) : ofCalls calls = ofSteps (calls.map Call.step) := by
  rw [ofCalls_eq_stagesOfAll, ofSteps_eq_flatten]
  induction calls with
  | nil => rfl
  | cons c cs ih =>
    rw [stagesOfAll, ih, List.map_cons, List.map_cons, List.flatten_cons, part_step]

/--
A pipeline is made of the stages of all calls, at any depth, and it is built stage by stage. It is
also built call by call. All pipelines that are there when the calls have been made, those that were
spliced among them, are built as they were before.
-/
theorem build_ofCalls (ctx : Context) (calls : List Call)
    : ofCalls calls = ofSteps (calls.map Call.step) ∧
        InTurn ctx ((stagesOfAll calls).map fun s => [s]) (ofCalls calls) ∧
        InTurn ctx (calls.map fun c => c.step.part) (ofCalls calls) ∧
        (∀ (p : Pipeline) ds, p <+: ofCalls calls → (ofCalls calls).build ctx = .ok ds →
          ∃ es, p.build ctx = .ok es ∧ es <+: ds) ∧
        ∀ b : Bench, (runAll b calls).finished.map (build ctx) =
          b.finished.map (build ctx) ++
            (splicesOfAll calls).map fun inner => (ofCalls inner).build ctx := by
  refine ⟨?_, ?_, ?_, ?_, ?_⟩
  . apply ofCalls_eq_ofSteps
  . have hflatten := inTurn_flatten ctx ((stagesOfAll calls).map fun s => [s])
    rw [← List.flatMap_def, List.flatMap_singleton'] at hflatten
    rw [ofCalls_eq_stagesOfAll]
    exact hflatten
  . have hflatten := inTurn_flatten ctx (calls.map fun c => c.step.part)
    rw [ofCalls_eq_ofSteps, ofSteps_eq_flatten, List.map_map]
    exact hflatten
  . intro p ds hp hds
    exact build_of_prefix hp hds
  . intro b
    rw [finished_runAll, List.map_append, List.map_map]
    rfl

def splicedSample : List Call := [
  .stage (.limit 5),
  .splice [
    .stage (.unwind {}),
    .splice [.stage (.count "n")],
    .stage (.raw [("$out", .string "report")])],
  .stage (.skip 2)]

def splicedSampleDocuments : List Document := [
  [("$limit", .int64 5)],
  [("$count", .string "n")],
  [("$out", .string "report")],
  [("$skip", .int64 2)]]

theorem build_ofCalls_splicedSample
    : (ofCalls splicedSample).stageNames = ["$limit", "$unwind", "$count", "raw", "$skip"] ∧
        [.limit 5, .unwind {}, .count "n"] <+: ofCalls splicedSample ∧
        (ofCalls splicedSample).build {} = .ok splicedSampleDocuments ∧
        ∃ es, build {} [.limit 5, .unwind {}, .count "n"] = .ok es ∧
          es <+: splicedSampleDocuments := by
  have hcalls : ofCalls splicedSample = [.limit 5, .unwind {}, .count "n"] ++
      [.raw [("$out", .string "report")], .skip 2] := by
    rfl
  have hprefix : [.limit 5, .unwind {}, .count "n"] <+: ofCalls splicedSample := by
    rw [hcalls]
    apply List.prefix_append
  have hbuild : (ofCalls splicedSample).build {} = .ok splicedSampleDocuments := by
    rfl
  have hsample := build_ofCalls {} splicedSample
  exact ⟨by rfl, hprefix, hbuild, hsample.right.right.right.left _ _ hprefix hbuild⟩

end Pipeline

end Aggregation
