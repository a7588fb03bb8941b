import Aggregation.Aggregator
import Aggregation.Proofs.Except
import Aggregation.Proofs.Splice

/-!
This module contains sequences of calls of an aggregator. The executor is asked for exactly those
whose pipelines resolve, and the callers get its answers in their order.
-/

namespace Aggregation

theorem Aggregator.aggregateIn_eq (a : Aggregator σ) (decode : Document → Option α)
    (collection : String) (steps : List Pipeline.Step) (s : σ)
    : a.aggregateIn decode collection steps s =
        a.aggregatePipeline decode (steps.flatMap Pipeline.Step.part) collection s := by
  rw [aggregateIn, Pipeline.ofSteps_eq_flatten, ← List.flatMap_def]

/--
A call through one of the three entry points of an aggregator, without the type of the rows.
-/
inductive Entry where
  | aggregate (r : Record) (steps : List Pipeline.Step)
  | aggregateIn (collection : String) (steps : List Pipeline.Step)
  | aggregatePipeline (p : Pipeline) (collection : String)

namespace Entry

/--
The stages that are declared in the call, in their order. Those of a spliced pipeline stand in its
place.
-/
def pipeline : Entry → Pipeline
  | .aggregate _ steps => steps.flatMap Pipeline.Step.part
  | .aggregateIn _ steps => steps.flatMap Pipeline.Step.part
  | .aggregatePipeline p _ => p

def collection : Entry → String
  | .aggregate r _ => r.collection
  | .aggregateIn collection _ => collection
  | .aggregatePipeline _ collection => collection

def run (a : Aggregator σ) (decode : Document → Option α) (s : σ)
    : Entry → Except Error (List α) × σ
  | .aggregate r steps => a.aggregate decode r steps s
  | .aggregateIn collection steps => a.aggregateIn decode collection steps s
  | .aggregatePipeline p collection => a.aggregatePipeline decode p collection s

theorem run_eq_aggregatePipeline (a : Aggregator σ) (decode : Document → Option α) (s : σ)
    (x : Entry)
    : x.run a decode s = a.aggregatePipeline decode x.pipeline x.collection s := by
  cases x with
  | aggregate r steps =>
    rw [run, Aggregator.aggregate, Aggregator.aggregateIn_eq, pipeline, collection]
  | aggregateIn name steps => rw [run, Aggregator.aggregateIn_eq, pipeline, collection]
  | aggregatePipeline p name => rw [run, pipeline, collection]

theorem run_eq_run (a : Aggregator σ) (decode : Document → Option α) (s : σ) {x y : Entry}
    (hpipeline : x.pipeline = y.pipeline) (hcollection : x.collection = y.collection)
    : x.run a decode s = y.run a decode s := by
  rw [run_eq_aggregatePipeline, run_eq_aggregatePipeline, hpipeline, hcollection]

end Entry

structure Call where
  Row : Type
  decode : Document → Option Row
  entry : Entry

structure Answer where
  Row : Type
  rows : Except Error (List Row)

namespace Call

variable (a : Aggregator σ)

def run (c : Call) (s : σ) : Except Error (List c.Row) × σ :=
  c.entry.run a c.decode s

/--
What the executor is asked for, if it is asked at all.
-/
def request? (c : Call) : Option Request :=
  match c.entry.pipeline.build a.context with
  | .error _ => none
  | .ok pipeline => some { pipeline, collection := c.entry.collection, options := a.options }

/--
The outcomes of a call, with the state of the executor before and after it.
-/
inductive Yields (c : Call) (s : σ) : Except Error (List c.Row) → σ → Prop where
  | unresolved (h : c.entry.pipeline.build a.context = .error e) : Yields c s (.error e) s
  | failed (h : c.request? a = some request) (hrun : a.executor.run request s = (.error e, t))
      : Yields c s (.error e) t
  | decoded (h : c.request? a = some request) (hrun : a.executor.run request s = (.ok documents, t))
      (hrows : List.Forall₂ (fun d row => c.decode d = some row) documents rows)
      : Yields c s (.ok rows) t
  | undecodable (h : c.request? a = some request)
      (hrun : a.executor.run request s = (.ok documents, t)) (hd : d ∈ documents)
      (hdecode : c.decode d = none) : Yields c s (.error .undecodableRow) t

end Call

namespace Aggregator

def runAll (a : Aggregator σ) : List Call → σ → List Answer × σ
  | [], s => ([], s)
  | c :: calls, s =>
    let (rows, s) := c.run a s
    let (answers, s) := a.runAll calls s
    (⟨c.Row, rows⟩ :: answers, s)

inductive Runs (a : Aggregator σ) : σ → List Call → List Answer → σ → Prop where
  | nil : Runs a s [] [] s
  | cons (h : c.Yields a s rows t) (hs : Runs a t calls answers u)
      : Runs a s (c :: calls) (⟨c.Row, rows⟩ :: answers) u

/--
The same aggregator, whose executor also keeps the requests it was given.
-/
def recording (a : Aggregator σ) : Aggregator (σ × List Request) where
  executor := {
    run request s :=
      let (documents, t) := a.executor.run request s.1
      (documents, t, s.2 ++ [request])
    shutdown s := a.executor.shutdown s.1
  }
  context := a.context
  options := a.options

end Aggregator

/-!
One call.
-/

namespace Aggregator

variable {decode : Document → Option α} {documents : List Document}

theorem decodeRows_eq_ok {rows : List α}
    : decodeRows decode documents = .ok rows ↔
        List.Forall₂ (fun d row => decode d = some row) documents rows := by
  rw [← Option.mapM_eq_some]
  unfold decodeRows
  split
  . next h => simp [h]
  . next h => simp [h]

theorem decodeRows_eq_error {e : Error}
    : decodeRows decode documents = .error e ↔
        e = .undecodableRow ∧ ∃ d ∈ documents, decode d = none := by
  rw [← Option.mapM_eq_none]
  unfold decodeRows
  split
  . next h => simp [h]
  . next h => simp [h, eq_comm]

end Aggregator

namespace Call

variable {a : Aggregator σ} {c : Call} {s t : σ}

theorem run_of_unresolved {e : Error} (h : c.entry.pipeline.build a.context = .error e) (s : σ)
    : c.run a s = (.error e, s) := by
  unfold run
  rw [Entry.run_eq_aggregatePipeline, Aggregator.aggregatePipeline, h]

theorem run_of_request {request : Request} (h : c.request? a = some request) (s : σ)
    : c.run a s =
        ((a.executor.run request s).1 >>= Aggregator.decodeRows c.decode,
          (a.executor.run request s).2) := by
  unfold request? at h
  unfold run
  rw [Entry.run_eq_aggregatePipeline, Aggregator.aggregatePipeline]
  cases hbuild : c.entry.pipeline.build a.context with
  | error e => simp [hbuild] at h
  | ok pipeline =>
    simp only [hbuild, Option.some.injEq] at h
    rw [← h]

theorem request?_eq_none
    : c.request? a = none ↔ ∃ e, c.entry.pipeline.build a.context = .error e := by
  unfold request?
  cases c.entry.pipeline.build a.context <;> simp

theorem yields_run (a : Aggregator σ) (c : Call) (s : σ)
    : c.Yields a s (c.run a s).1 (c.run a s).2 := by
  cases hrequest : c.request? a with
  | none =>
    rcases request?_eq_none.mp hrequest with ⟨e, he⟩
    rw [run_of_unresolved he]
    exact .unresolved he
  | some request =>
    rw [run_of_request hrequest]
    rcases hrun : a.executor.run request s with ⟨documents, t⟩
    cases documents with
    | error e => exact .failed hrequest hrun
    | ok documents =>
      change c.Yields a s (Aggregator.decodeRows c.decode documents) t
      cases hrows : Aggregator.decodeRows c.decode documents with
      | error e =>
        rw [Aggregator.decodeRows_eq_error] at hrows
        rcases hrows with ⟨rfl, d, hd, hdecode⟩
        exact .undecodable hrequest hrun hd hdecode
      | ok rows =>
        rw [Aggregator.decodeRows_eq_ok] at hrows
        exact .decoded hrequest hrun hrows

theorem Yields.run_eq {x : Except Error (List c.Row)} (h : c.Yields a s x t)
    : c.run a s = (x, t) := by
  cases h with
  | unresolved he => exact run_of_unresolved he s
  | failed hrequest hrun =>
    rw [run_of_request hrequest, hrun]
    rfl
  | decoded hrequest hrun hrows =>
    rw [run_of_request hrequest, hrun]
    rw [← Aggregator.decodeRows_eq_ok] at hrows
    exact congrArg (·, t) hrows
  | @undecodable _ documents _ d hrequest hrun hd hdecode =>
    rw [run_of_request hrequest, hrun]
    have hrows := Aggregator.decodeRows_eq_error.mpr ⟨rfl, d, hd, hdecode⟩
    exact congrArg (·, t) hrows

theorem run_recording (c : Call) (s : σ) (log : List Request)
    : c.run a.recording (s, log) =
        ((c.run a s).1, (c.run a s).2, log ++ (c.request? a).toList) := by
  have hrequest : c.request? a.recording = c.request? a := by rfl
  cases h : c.request? a with
  | none =>
    rcases request?_eq_none.mp h with ⟨e, he⟩
    rw [run_of_unresolved (a := a.recording) he, run_of_unresolved he]
    rw [Option.toList_none, List.append_nil]
  | some request =>
    rw [h] at hrequest
    rw [run_of_request hrequest, run_of_request h]
    rfl

end Call

/-!
Sequences of calls.
-/

namespace Aggregator

theorem runAll_cons (a : Aggregator σ) (c : Call) (calls : List Call) (s : σ)
    : a.runAll (c :: calls) s =
        (⟨c.Row, (c.run a s).1⟩ :: (a.runAll calls (c.run a s).2).1,
          (a.runAll calls (c.run a s).2).2) := by
  rfl

theorem runAll_eq_iff_runs {a : Aggregator σ} {calls : List Call} {answers : List Answer} {s t : σ}
    : a.runAll calls s = (answers, t) ↔ a.Runs s calls answers t := by
  constructor
  . intro h
    induction calls generalizing answers s with
    | nil =>
      rw [runAll, Prod.mk.injEq] at h
      rcases h with ⟨rfl, rfl⟩
      exact .nil
    | cons c calls ih =>
      rw [runAll_cons, Prod.mk.injEq] at h
      rcases h with ⟨rfl, rfl⟩
      apply Runs.cons
      . apply Call.yields_run
      . apply ih
        rfl
  . intro h
    induction h with
    | nil => rfl
    | cons hc _ ih => rw [runAll_cons, hc.run_eq, ih]

theorem runAll_recording (a : Aggregator σ) (calls : List Call) (s : σ) (log : List Request)
    : a.recording.runAll calls (s, log) =
        ((a.runAll calls s).1, (a.runAll calls s).2, log ++ calls.filterMap (Call.request? a)) := by
  induction calls generalizing s log with
  | nil => simp [runAll]
  | cons c calls ih =>
    rw [runAll_cons, runAll_cons, c.run_recording, ih, List.filterMap_cons]
    cases c.request? a <;> simp

/--
The executor is given the requests of the calls that resolve, each one once and in their order, and
the answers are the ones that the rules for single calls allow. It does not matter through which
entry point the same stages are run on the same collection.
-/
theorem runAll_records_resolved (a : Aggregator σ) (calls : List Call) (s : σ) (log : List Request)
    : a.recording.runAll calls (s, log) =
          ((a.runAll calls s).1, (a.runAll calls s).2,
            log ++ calls.filterMap (Call.request? a)) ∧
        (∀ answers t, a.runAll calls s = (answers, t) ↔ a.Runs s calls answers t) ∧
        (∀ (α : Type) (decode : Document → Option α) (x : Entry) (t : σ),
          x.run a decode t = a.aggregatePipeline decode x.pipeline x.collection t) ∧
        ∀ (α : Type) (decode : Document → Option α) (x y : Entry) (t : σ),
          x.pipeline = y.pipeline → x.collection = y.collection →
            x.run a decode t = y.run a decode t := by
  refine ⟨a.runAll_recording calls s log, ?_, ?_, ?_⟩
  . intro answers t
    exact runAll_eq_iff_runs
  . intro α decode x t
    exact x.run_eq_aggregatePipeline a decode t
  . intro α decode x y t hpipeline hcollection
    exact Entry.run_eq_run a decode t hpipeline hcollection

/-- An executor that numbers its answers and has one collection that it cannot read. -/
def counting : Aggregator Nat where
  executor := {
    run request n :=
      if request.collection = "locked" then
        (.error (.backend "locked"), n + 1)
      else
        (.ok [[("answer", .int32 (.ofNat n))]], n + 1)
  }
  options := { batchSize := some 10 }

def answer? (d : Document) : Option Int32 :=
  match d.get? "answer" with
  | some (.int32 n) => some n
  | _ => none

def limited : List Pipeline.Step :=
  [.stage (.limit 5), .splice [.unwind {}, .count "n"], .stage (.skip 2)]

def limitedDocuments : List Document :=
  [[("$limit", .int64 5)], [("$count", .string "n")], [("$skip", .int64 2)]]

def lockedRecord : Record where
  collection := "locked"
  companion := "LockedFields"
  companionDoc := "Property references for the fields of [`Locked`]."
  visibility := .inherited
  accessors := []

def mixedCalls : List Call := [
  ⟨Int32, answer?, .aggregateIn "sales" limited⟩,
  ⟨Int32, answer?, .aggregateIn "sales" [.stage (.limit 5), .stage (.sort (.ofKeys []))]⟩,
  ⟨Int32, answer?, .aggregate lockedRecord [.stage (.skip 2)]⟩,
  ⟨String, fun _ => none, .aggregatePipeline [.limit 5, .unwind {}, .count "n", .skip 2] "sales"⟩]

def mixedAnswers : List Answer := [
  ⟨Int32, .ok [0]⟩,
  ⟨Int32, .error (.incompleteStage "$sort" .noSortKey)⟩,
  ⟨Int32, .error (.backend "locked")⟩,
  ⟨String, .error .undecodableRow⟩]

def mixedRequests : List Request := [
  ⟨limitedDocuments, "sales", { batchSize := some 10 }⟩,
  ⟨[[("$skip", .int64 2)]], "locked", { batchSize := some 10 }⟩,
  ⟨limitedDocuments, "sales", { batchSize := some 10 }⟩]

theorem runAll_records_mixedCalls
    : counting.recording.runAll mixedCalls (0, []) = (mixedAnswers, 3, mixedRequests) ∧
        counting.Runs 0 mixedCalls mixedAnswers 3 ∧
        (Entry.aggregateIn "sales" limited).pipeline =
          [.limit 5, .unwind {}, .count "n", .skip 2] ∧
        (Entry.aggregateIn "sales" limited).run counting answer? 7 = (.ok [7], 8) ∧
        (Entry.aggregatePipeline [.limit 5, .unwind {}, .count "n", .skip 2] "sales").run counting
          answer? 7 = (.ok [7], 8) := by
  have hrun : counting.runAll mixedCalls 0 = (mixedAnswers, 3) := by rfl
  have hentry : (Entry.aggregateIn "sales" limited).run counting answer? 7 = (.ok [7], 8) := by
    rfl
  rcases runAll_records_resolved counting mixedCalls 0 [] with ⟨hrecording, hruns, _, hsame⟩
  refine ⟨?_, ?_, by rfl, hentry, ?_⟩
  . rw [hrecording, hrun]
    rfl
  . rw [← hruns]
    exact hrun
  . rw [← hentry]
    exact hsame _ _ _ _ _ rfl rfl

end Aggregator

end Aggregation
