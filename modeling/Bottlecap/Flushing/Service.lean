import Bottlecap.Flushing.TraceRedrive

namespace Bottlecap
namespace Flushing

open Foundations Logs

/-!
# The flushing service

`FlushHandles` (`flushing/handles.rs`) and `FlushingService` (`flushing/service.rs`).  A
join handle carries what awaiting its task gives, so that the value is fixed when the task
is spawned; `finished` says whether the task has got there.  `await_handles` is given as
the tasks that it spawns: each of them runs in a round of its own, and what they return is
dropped.
-/

/-- What awaiting a task gives, `none` for a `JoinError`, and `is_finished`. -/
structure JoinHandle (Output : Type) where
  output : Option Output
  finished : Bool

/-- A task that runs to its end. -/
def JoinHandle.spawn {Output : Type} (output : Output) : JoinHandle Output := ⟨some output, false⟩

def pending {Output : Type} (handles : List (JoinHandle Output)) : Bool :=
  handles.any (fun handle => !handle.finished)

/-- What the tasks of some handles return. -/
def outputs {Output : Type} (handles : List (JoinHandle Output)) : List Output :=
  handles.filterMap JoinHandle.output

theorem mem_outputs_push {Output : Type} (handles : List (JoinHandle Output)) (output : Output) :
    output ∈ outputs (handles ++ [JoinHandle.spawn output]) := by
  rw [outputs, List.filterMap_append]
  exact List.mem_append_right _ List.mem_cons_self

structure MetricsRetryBatch (Series Sketch : Type) where
  flusherId : Nat
  series : List Series
  sketches : List Sketch

structure FlushHandles (Chunk Stat Body Series Sketch : Type) where
  traceFlushHandles : List (JoinHandle (List (SendData Chunk)))
  logFlushHandles : List (JoinHandle (List (Request Bytes)))
  metricFlushHandles : List (JoinHandle (MetricsRetryBatch Series Sketch))
  proxyFlushHandles : List (JoinHandle (List (Request Body)))
  statsFlushHandles : List (JoinHandle (List Stat))

structure FlushResponse (Series Sketch : Type) where
  series : List Series
  distributions : List Sketch

/-- What `flush_metrics` of the `dogstatsd` crate hands back, and whether the endpoint took
all that it was given. -/
structure MetricsReply (Series Sketch : Type) where
  failed : Option (List Series × List Sketch)
  accepted : Bool

structure MetricsRound (Series Sketch : Type) where
  /-- `none` when the aggregator's task is gone. -/
  flush : Option (FlushResponse Series Sketch)
  flushMetrics : Nat -> List Series -> List Sketch -> MetricsReply Series Sketch

/-- What one flush of all telemetry meets.  `drain_into_proxy` has already put its
requests into the queue of the proxy's aggregator. -/
structure Round (Chunk Stat Body Series Sketch : Type) where
  logs : LogsRound
  traces : TraceRound Chunk
  stats : StatsRound Stat
  proxy : ProxyRound Body
  metrics : MetricsRound Series Sketch

structure FlushingService (Chunk Stat Body Series Sketch : Type) where
  logsFlusher : LogsFlusher
  traceFlusher : TraceFlusher
  /-- How many there are. -/
  metricsFlushers : Nat
  handles : FlushHandles Chunk Stat Body Series Sketch

variable {Chunk Stat Body Series Sketch : Type}

namespace FlushHandles

def new : FlushHandles Chunk Stat Body Series Sketch := ⟨[], [], [], [], []⟩

def hasPending (handles : FlushHandles Chunk Stat Body Series Sketch) : Bool :=
  pending handles.traceFlushHandles || pending handles.logFlushHandles ||
    pending handles.metricFlushHandles || pending handles.proxyFlushHandles ||
    pending handles.statsFlushHandles

end FlushHandles

/-- A task that `await_handles` spawns. -/
inductive Redrive (Chunk Stat Body Series Sketch : Type) where
  | stats (retry : List Stat)
  | traces (retry : List (SendData Chunk))
  | logs (item : Request Bytes)
  | metrics (batch : MetricsRetryBatch Series Sketch)
  | proxy (batch : List (Request Body))

/-- The tasks for what the flushes have returned.  Stats and traces are redriven when there
are some, log requests one by one, and proxied requests in any case. -/
def FlushHandles.redrives (handles : FlushHandles Chunk Stat Body Series Sketch) :
    List (Redrive Chunk Stat Body Series Sketch) :=
  ((outputs handles.statsFlushHandles).filter (fun retry => !retry.isEmpty)).map .stats ++
    ((outputs handles.traceFlushHandles).filter (fun retry => !retry.isEmpty)).map .traces ++
    ((outputs handles.logFlushHandles).flatten.filter Request.clonable).map .logs ++
    ((outputs handles.metricFlushHandles).filter
      (fun batch => !batch.series.isEmpty || !batch.sketches.isEmpty)).map .metrics ++
    (outputs handles.proxyFlushHandles).map .proxy

structure Awaited (Chunk Stat Body Series Sketch : Type) where
  flushError : Bool
  redrives : List (Redrive Chunk Stat Body Series Sketch)
  service : FlushingService Chunk Stat Body Series Sketch

namespace FlushingService

variable (service : FlushingService Chunk Stat Body Series Sketch)

def hasPendingHandles : Bool := service.handles.hasPending

/-- `none` when the metrics aggregator is gone, on which the source panics. -/
def spawnNonBlocking (utils : TraceUtils Chunk) (round : Round Chunk Stat Body Series Sketch) :
    Option (FlushingService Chunk Stat Body Series Sketch) :=
  match round.metrics.flush with
  | none => none
  | some response =>
    let metric (idx : Nat) : JoinHandle (MetricsRetryBatch Series Sketch) :=
      let retry := ((round.metrics.flushMetrics idx response.series
        response.distributions).failed).getD ([], [])
      JoinHandle.spawn ⟨idx, retry.1, retry.2⟩
    let handles := service.handles
    some { service with
      handles :=
        { logFlushHandles := handles.logFlushHandles ++
            [JoinHandle.spawn (service.logsFlusher.flush round.logs none).failed]
          traceFlushHandles := handles.traceFlushHandles ++
            [JoinHandle.spawn (service.traceFlusher.flush utils round.traces none).failed]
          metricFlushHandles := handles.metricFlushHandles ++
            (List.range service.metricsFlushers).map metric
          statsFlushHandles := handles.statsFlushHandles ++
            [JoinHandle.spawn (StatsFlusher.flush round.stats false none).failed.flatten]
          proxyFlushHandles := handles.proxyFlushHandles ++
            [JoinHandle.spawn (ProxyFlusher.flush round.proxy none).failed] } }

/-- All handles are drained and awaited.  Of the tasks that end in a `JoinError` only those
of stats are reported. -/
def awaitHandles : Awaited Chunk Stat Body Series Sketch :=
  { flushError := service.handles.statsFlushHandles.any (fun handle => handle.output.isNone)
    redrives := service.handles.redrives
    service := { service with handles := FlushHandles.new } }

/-- `flush_blocking_inner`. -/
def flushBlockingInner (utils : TraceUtils Chunk) (round : Round Chunk Stat Body Series Sketch)
    (forceStats : Bool) : Bool :=
  let flushResponse := round.metrics.flush.getD ⟨[], []⟩
  let metricsHandleFailed := round.metrics.flush.isNone
  let metrics := (List.range service.metricsFlushers).map (fun idx =>
    (round.metrics.flushMetrics idx flushResponse.series flushResponse.distributions).failed)
  let logs := (service.logsFlusher.flush round.logs none).failed
  let traces := (service.traceFlusher.flush utils round.traces none).failed
  let stats := (StatsFlusher.flush round.stats forceStats none).failed.flatten
  let proxy := (ProxyFlusher.flush round.proxy none).failed
  let undelivered : List (String × Bool) :=
    [("logs", !logs.isEmpty),
      ("metrics", metricsHandleFailed || metrics.any (fun retry =>
        retry.any (fun failed => !failed.1.isEmpty || !failed.2.isEmpty))),
      ("traces", !traces.isEmpty),
      ("stats", !stats.isEmpty),
      ("proxy", !proxy.isEmpty)]
  let failed := undelivered.filterMap (fun entry => if entry.2 then some entry.1 else none)
  !failed.isEmpty

end FlushingService

/-! ## An outage -/

/-- Nothing is in the aggregators, and every request is answered with a server error. -/
def Round.down : Round Nat Nat Nat Nat Nat :=
  { logs := ⟨some [], fun _ => true, fun _ _ => .status 503,
      IterationOrder.listed _⟩
    traces := ⟨some "key", some [], fun _ _ => .answered, IterationOrder.listed _⟩
    stats := ⟨fun _ => some "key", fun _ => [], fun _ => true, fun _ => true,
      fun _ _ => .status 503⟩
    proxy := ⟨some "key", [], fun _ => true, fun _ _ => .status 503,
      IterationOrder.listed _⟩
    metrics := ⟨some ⟨[], []⟩, fun _ _ _ => ⟨none, true⟩⟩ }

/-- A service that has spawned nothing yet, with one endpoint for each kind of data. -/
def FlushingService.idle : FlushingService Nat Nat Nat Nat Nat :=
  { logsFlusher := ⟨⟨false, false⟩, [⟨"http://localhost:8080", some "key"⟩],
      fun _ => none, fun _ _ failed => by cases failed⟩
    traceFlusher := ⟨[]⟩
    metricsFlushers := 1
    handles := FlushHandles.new }

end Flushing
end Bottlecap
