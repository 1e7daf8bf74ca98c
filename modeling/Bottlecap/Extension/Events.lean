import Bottlecap.Foundations.Json

namespace Bottlecap
namespace Extension

open Foundations

/-!
# Telemetry events

The records of the Telemetry API (`extension/telemetry/events.rs`) and the
messages of the event bus (`event_bus/mod.rs`).  A `DateTime<Utc>` is the number
of nanoseconds since the Unix epoch; the handlers stop on an earlier one.
A duration in milliseconds, an `f64` in the source, is rational.
-/

/-- Nanoseconds since the Unix epoch. -/
abbrev DateTime := Nat

/-- `DateTime::timestamp`, whole seconds. -/
def DateTime.timestamp (time : DateTime) : Int := (time / 1000000000 : Nat)

/-- `DateTime::timestamp_millis` -/
def DateTime.timestampMillis (time : DateTime) : Int := (time / 1000000 : Nat)

inductive InitType where
  | onDemand
  | provisionedConcurrency
  | snapStart
  | managedInstance
  deriving DecidableEq

inductive InitPhase where
  | init
  | invoke
  deriving DecidableEq

inductive Status where
  | success
  | error
  | failure
  | timeout
  deriving DecidableEq

structure InitReportMetrics where
  durationMs : Rat
  deriving DecidableEq

structure RestoreReportMetrics where
  durationMs : Rat
  deriving DecidableEq

structure RuntimeDoneMetrics where
  durationMs : Rat
  producedBytes : Option UInt64
  deriving DecidableEq

structure OnDemandReportMetrics where
  durationMs : Rat
  billedDurationMs : UInt64
  memorySizeMb : UInt64
  maxMemoryUsedMb : UInt64
  initDurationMs : Option Rat
  restoreDurationMs : Option Rat
  deriving DecidableEq

structure ManagedInstanceReportMetrics where
  durationMs : Rat
  deriving DecidableEq

inductive ReportMetrics where
  | onDemand (metrics : OnDemandReportMetrics)
  | managedInstance (metrics : ManagedInstanceReportMetrics)
  deriving DecidableEq

structure TelemetrySpan where
  name : String
  start : DateTime
  durationMs : Rat
  deriving DecidableEq

inductive TelemetryRecord where
  | function (value : Value)
  | extension (value : Value)
  | platformInitStart (initializationType : InitType) (phase : InitPhase)
      (runtimeVersion runtimeVersionArn : Option String)
  | platformInitRuntimeDone (initializationType : InitType) (phase : Option InitPhase)
      (status : Status) (errorType : Option String)
  | platformInitReport (initializationType : InitType) (phase : InitPhase)
      (metrics : InitReportMetrics)
  | platformStart (requestId : String) (version : Option String)
  | platformRuntimeDone (requestId : String) (status : Status) (errorType : Option String)
      (metrics : Option RuntimeDoneMetrics)
  | platformReport (requestId : String) (status : Status) (errorType : Option String)
      (metrics : ReportMetrics) (spans : Option (List TelemetrySpan))
  | platformExtension (name state : String) (events : List String)
  | platformTelemetrySubscription (name state : String) (types : List String)
  | platformLogsDropped (reason : String) (droppedRecords droppedBytes : UInt64)
  | platformRestoreStart
  | platformRestoreReport (status : Status) (errorType : Option String)
      (metrics : Option RestoreReportMetrics)
  | platformRestoreRuntimeDone (status : Status) (errorType : Option String)

structure TelemetryEvent where
  time : DateTime
  record : TelemetryRecord

/-- A message of the event bus. -/
inductive Event where
  | telemetry (event : TelemetryEvent)
  | outOfMemory (requestId : Option String) (timestamp : Int)
  | tombstone

end Extension
end Bottlecap
