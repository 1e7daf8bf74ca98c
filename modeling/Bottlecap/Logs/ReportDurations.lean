import Bottlecap.Logs.LogAccounts

namespace Bottlecap
namespace Logs

open Foundations Extension

/-!
# The durations of a REPORT line

The On-Demand REPORT line prints two durations that `platform.report` does not
carry: how long the runtime took, and what the invocation took beyond that.  The
first comes from `platform.runtimeDone`, through one field of the processor that
all invocations share.  `get_message` writes the field whenever such a record has
metrics and never clears it.

The field is a function of the events seen so far (`lastMeasured`), so the line
is compared with the one that the records of its own request would give
(`ownMetrics`).
-/

/-! ## What the processor remembers -/

/-- The last duration that a sequence of events wrote. -/
def lastMeasured (events : List TelemetryEvent) : Option Rat :=
  events.foldl (fun last event => (measured event).or last) none

/-- The metrics of the last `platform.runtimeDone` of a request, `none` if it had
none or did not arrive. -/
def ownMetrics (requestId : String) (events : List TelemetryEvent) : Option RuntimeDoneMetrics :=
  events.foldl (fun own event =>
    match event.record with
    | .platformRuntimeDone id _ _ metrics => if id = requestId then metrics else own
    | _ => own) none

/-- The durations that belong to the request of a report. -/
def ownDurations (own : Option RuntimeDoneMetrics) (metrics : OnDemandReportMetrics) : Rat × Rat :=
  match own with
  | some own => (own.durationMs, metrics.durationMs - own.durationMs)
  | none => (0, 0)

/-- The last duration written is the one of the request's own record, and it is
positive unless the report took no longer.  Without such a record none was
written, or a zero. -/
def LastIsOwn (requestId : String) (metrics : OnDemandReportMetrics)
    (events : List TelemetryEvent) : Prop :=
  match ownMetrics requestId events with
  | some own =>
    lastMeasured events = some own.durationMs ∧
      (0 < own.durationMs ∨ metrics.durationMs = own.durationMs)
  | none => lastMeasured events = none ∨ lastMeasured events = some 0

instance (requestId : String) (metrics : OnDemandReportMetrics) (events : List TelemetryEvent) :
    Decidable (LastIsOwn requestId metrics events) :=
  match found : ownMetrics requestId events with
  | some _ => decidable_of_iff' _ (by rw [LastIsOwn, found])
  | none => decidable_of_iff' _ (by rw [LastIsOwn, found])

/-- A record of the request that has metrics is among the events that were measured. -/
theorem lastMeasured_isSome {requestId : String} {events : List TelemetryEvent}
    {own : RuntimeDoneMetrics} (found : ownMetrics requestId events = some own) :
    (lastMeasured events).isSome = true := by
  induction events using List.reverseRecOn with
  | nil => cases found
  | append_singleton _ event ih =>
    rw [ownMetrics, List.foldl_append, List.foldl_cons] at found
    rw [lastMeasured, List.foldl_append, List.foldl_cons]
    cases written : measured event with
    | some => rfl
    | none =>
      apply ih
      rcases event with ⟨time, record⟩
      cases record with
      | platformRuntimeDone id _ _ metrics =>
        cases metrics with
        | some => cases written
        | none =>
          by_cases same : id = requestId
          · simp only [same, if_true] at found
            cases found
          · simp only [same, if_false] at found
            exact found
      | _ => exact found

/-- The line prints the durations of its own request exactly if the last duration
written is the right one. -/
theorem printedDurations_eq_own_iff (requestId : String) (metrics : OnDemandReportMetrics)
    (events : List TelemetryEvent) :
    printedDurations ((lastMeasured events).getD 0) metrics =
        ownDurations (ownMetrics requestId events) metrics <->
      LastIsOwn requestId metrics events := by
  rw [LastIsOwn]
  cases found : ownMetrics requestId events with
  | none =>
    cases last : lastMeasured events with
    | none => simp [printedDurations, ownDurations]
    | some =>
      simp only [printedDurations, ownDurations, Prod.mk.injEq, Option.some.injEq, reduceCtorEq,
        false_or]
      constructor
      · exact fun same => same.1
      · rintro rfl
        exact ⟨rfl, if_neg Rat.lt_irrefl⟩
  | some own =>
    rcases Option.isSome_iff_exists.mp (lastMeasured_isSome found) with ⟨duration, last⟩
    simp only [last, printedDurations, ownDurations, Option.getD_some, Prod.mk.injEq,
      Option.some.injEq]
    refine and_congr_right ?_
    rintro rfl
    by_cases positive : 0 < own.durationMs
    · simp only [positive, if_true, true_or]
    · simp only [positive, if_false, false_or]
      constructor
      · exact fun zero => sub_eq_zero.mp zero.symm
      · exact fun same => (sub_eq_zero.mpr same).symm

/-! ## Runs -/

namespace LambdaProcessor

variable (env : ProcessorEnv)

theorem process_runtimeDurationMs {fuel : Nat} {event : TelemetryEvent}
    {processor after : LambdaProcessor} {batch : List String}
    (returns : processor.process env fuel event = some (batch, after)) :
    after.runtimeDurationMs = (measured event).getD processor.runtimeDurationMs := by
  rcases Option.map_eq_some_iff.mp returns with ⟨queued, queues, taken⟩
  rw [queueEvent_eq] at queues
  rcases Option.map_eq_some_iff.mp queues with ⟨buffers, _, same⟩
  cases taken
  rw [<- same]
  exact (getMessage_spec env processor event).1.runtimeDurationMs

end LambdaProcessor

namespace LogsCall

variable (env : ProcessorEnv)

/-- The telemetry events of a sequence of calls. -/
def events (calls : List LogsCall) : List TelemetryEvent :=
  calls.filterMap (fun call =>
    match call with
    | process event => some event
    | _ => none)

theorem apply_runtimeDurationMs {fuel : Nat} {call : LogsCall} {logs after : LogsProcessor}
    (returns : call.apply env fuel logs = some after) :
    after.lambda.runtimeDurationMs =
      (events [call]).foldl (fun current event => (measured event).getD current)
        logs.lambda.runtimeDurationMs := by
  cases call with
  | process =>
    rcases Option.map_eq_some_iff.mp returns with ⟨⟨batch, processed⟩, processes, inserted⟩
    rw [<- inserted, LogsProcessor.insertBatch_lambda]
    exact LambdaProcessor.process_runtimeDurationMs env processes
  | insertToDurableContextMap | drainHeldLogs =>
    cases returns
    rfl
  | handOver =>
    cases returns
    rw [LogsProcessor.handOver, LogsProcessor.insertBatch_lambda]
    rfl

theorem foldlM_runtimeDurationMs {fuel : Nat} (calls : List LogsCall)
    {logs after : LogsProcessor}
    (returns : calls.foldlM (LogsCall.apply env fuel) logs = some after) :
    after.lambda.runtimeDurationMs =
      (events calls).foldl (fun current event => (measured event).getD current)
        logs.lambda.runtimeDurationMs := by
  induction calls generalizing logs with
  | nil =>
    cases returns
    rfl
  | cons call rest ih =>
    rcases Option.bind_eq_some_iff.mp returns with ⟨next, first, later⟩
    have split : events (call :: rest) = events [call] ++ events rest :=
      List.filterMap_append (l := [call])
    rw [split, List.foldl_append, <- apply_runtimeDurationMs env first]
    exact ih later

theorem foldl_measured (events : List TelemetryEvent) (last : Option Rat) :
    events.foldl (fun current event => (measured event).getD current) (last.getD 0) =
      (events.foldl (fun last event => (measured event).or last) last).getD 0 := by
  induction events generalizing last with
  | nil => rfl
  | cons event _ ih =>
    rw [List.foldl_cons, List.foldl_cons, <- ih]
    cases measured event with
    | none => rfl
    | some => rfl

/-- After a sequence of calls the processor remembers the last duration written. -/
theorem runtimeDurationMs_eq {fuel : Nat} {calls : List LogsCall} {after : LogsProcessor}
    (returns : calls.foldlM (LogsCall.apply env fuel) LogsProcessor.new = some after) :
    after.lambda.runtimeDurationMs = (lastMeasured (events calls)).getD 0 := by
  rw [foldlM_runtimeDurationMs env calls returns]
  exact foldl_measured (events calls) none

end LogsCall

/-- The message of a report, with the durations it prints. -/
theorem getMessage_report (env : ProcessorEnv) (processor : LambdaProcessor) (time : DateTime)
    (requestId : String) (status : Status) (errorType : Option String)
    (metrics : OnDemandReportMetrics) (spans : Option (List TelemetrySpan)) :
    (processor.getMessage env ⟨time, .platformReport requestId status errorType
        (.onDemand metrics) spans⟩).2 =
      let line := reportLine env.libraries requestId
        (printedDurations processor.runtimeDurationMs metrics) metrics status errorType
      Except.ok (Message.new line.1 (some requestId) env.functionArn time.timestampMillis line.2) :=
  rfl

/-- The REPORT line of a request, after any sequence of calls, prints the durations of the
request's own `platform.runtimeDone` exactly if the last duration written before it is its
own. -/
theorem report_durations_own_iff (env : ProcessorEnv) {fuel : Nat} {calls : List LogsCall}
    {logs : LogsProcessor}
    (returns : calls.foldlM (LogsCall.apply env fuel) LogsProcessor.new = some logs)
    (time : DateTime) (requestId : String) (status : Status) (errorType : Option String)
    (metrics : OnDemandReportMetrics) (spans : Option (List TelemetrySpan)) :
    let durations := printedDurations logs.lambda.runtimeDurationMs metrics
    let line := reportLine env.libraries requestId durations metrics status errorType
    (logs.lambda.getMessage env ⟨time, .platformReport requestId status errorType
          (.onDemand metrics) spans⟩).2 =
        Except.ok (Message.new line.1 (some requestId) env.functionArn time.timestampMillis
          line.2) ∧
      (durations = ownDurations (ownMetrics requestId (LogsCall.events calls)) metrics <->
        LastIsOwn requestId metrics (LogsCall.events calls)) := by
  intro durations line
  refine ⟨getMessage_report env logs.lambda time requestId status errorType metrics spans, ?_⟩
  change printedDurations logs.lambda.runtimeDurationMs metrics = _ <-> _
  rw [LogsCall.runtimeDurationMs_eq env returns]
  exact printedDurations_eq_own_iff requestId metrics (LogsCall.events calls)

/-- `platform.runtimeDone` of a request that succeeded. -/
def TelemetryEvent.done (requestId : String) (metrics : Option RuntimeDoneMetrics) :
    TelemetryEvent :=
  ⟨0, .platformRuntimeDone requestId .success none metrics⟩

/-- The metrics of a report, of which only the duration matters here. -/
def OnDemandReportMetrics.ofDuration (durationMs : Rat) : OnDemandReportMetrics where
  durationMs := durationMs
  billedDurationMs := 120
  memorySizeMb := 128
  maxMemoryUsedMb := 64
  initDurationMs := none
  restoreDurationMs := none

/-- One invocation of 100 milliseconds. -/
def measuredInvocation : List LogsCall :=
  [.process (TelemetryEvent.start "r1"),
    .process (TelemetryEvent.done "r1" (some ⟨100, none⟩))]

theorem measuredInvocation_returns :
    (measuredInvocation.foldlM (LogsCall.apply (ProcessorEnv.plain true) 1)
      LogsProcessor.new).isSome = true := by
  decide +kernel

theorem report_durations_own_measured :
    Exists fun logs =>
      measuredInvocation.foldlM (LogsCall.apply (ProcessorEnv.plain true) 1) LogsProcessor.new =
          some logs ∧
        printedDurations logs.lambda.runtimeDurationMs (OnDemandReportMetrics.ofDuration 120) =
          (100, 20) := by
  rcases Option.isSome_iff_exists.mp measuredInvocation_returns with ⟨logs, returns⟩
  refine ⟨logs, returns, ?_⟩
  have own : LastIsOwn "r1" (OnDemandReportMetrics.ofDuration 120)
      (LogsCall.events measuredInvocation) := by
    decide +kernel
  have durations := ((report_durations_own_iff (ProcessorEnv.plain true) returns 0 "r1"
    .success none (OnDemandReportMetrics.ofDuration 120) none).2).mpr own
  exact durations.trans (by decide +kernel)

/-- The invocation of `r1`, then one of `r2` whose end carries no metrics: the report of `r2`
prints the runtime duration of `r1`. -/
theorem leftover_duration_printed :
    ¬ forall (env : ProcessorEnv) (fuel : Nat) (calls : List LogsCall) (logs : LogsProcessor),
      calls.foldlM (LogsCall.apply env fuel) LogsProcessor.new = some logs ->
      forall (requestId : String) (metrics : OnDemandReportMetrics),
        printedDurations logs.lambda.runtimeDurationMs metrics =
          ownDurations (ownMetrics requestId (LogsCall.events calls)) metrics := by
  intro always
  let calls := measuredInvocation ++
    [.process (TelemetryEvent.start "r2"),
      .process (TelemetryEvent.done "r2" none)]
  have returns : (calls.foldlM (LogsCall.apply (ProcessorEnv.plain true) 1)
      LogsProcessor.new).isSome = true := by
    decide +kernel
  rcases Option.isSome_iff_exists.mp returns with ⟨logs, returns⟩
  have durations := always _ 1 calls logs returns "r2" (OnDemandReportMetrics.ofDuration 50)
  rw [LogsCall.runtimeDurationMs_eq _ returns] at durations
  exact absurd durations (by decide +kernel)

end Logs
end Bottlecap
