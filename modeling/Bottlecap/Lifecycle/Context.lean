import Bottlecap.Foundations.Lists
import Bottlecap.Foundations.Rendezvous
import Bottlecap.Lifecycle.SpanInferrer

namespace Bottlecap
namespace Lifecycle

open Foundations

/-!
# Invocation contexts and their buffer

`lifecycle/invocation/context.rs`.  The buffer holds the contexts of recent
invocations, oldest first, together with the events that wait for their
counterpart: start events for the invocation, end events for the end of the
runtime.  Both pairs are a `Rendezvous`, kept in the fields of the source.

A mutable reference found by `get_mut` or `get_closest_mut` becomes an update of
the entry that the search finds.  The capacity of a `VecDeque` is taken to be the
one requested.
-/

structure NetworkData where
  rxBytes : Rat
  txBytes : Rat

structure CPUData where
  totalUserTimeMs : Rat
  totalSystemTimeMs : Rat
  totalIdleTimeMs : Rat
  individualCpuIdleTimes : AList (fun _ : String => Rat)

structure EnhancedMetricData where
  networkOffset : Option NetworkData
  cpuOffset : Option CPUData
  uptimeOffset : Option Rat

structure Context where
  createdAt : Int
  requestId : String
  runtimeDurationMs : Rat := 0
  enhancedMetricData : Option EnhancedMetricData := none
  invocationSpan : Span := {}
  runtimeDoneReceived : Bool := false
  tracerSpan : Option Span := none
  coldStartSpan : Option Span := none
  snapstartRestoreSpan : Option Span := none
  extractedSpanContext : Option SpanContext := none
  oomEmitted : Bool := false
  clientComputedStats : Bool := false
  inferred : InferredSpanData := {}

structure ReparentingInfo where
  requestId : String
  invocationSpanId : UInt64
  parentIdToReparent : UInt64
  guessedTraceId : UInt64
  needsTraceId : Bool
  deriving DecidableEq

/-- The headers and payload of a start or end event. -/
structure UniversalInstrumentationData where
  headers : Tags
  payloadValue : Value

structure ContextBuffer where
  capacity : Nat
  buffer : List Context
  invokeEventsRequestIds : List String
  platformRuntimeDoneEventsRequestIds : List String
  universalInstrumentationStartEvents : List UniversalInstrumentationData
  universalInstrumentationEndEvents : List UniversalInstrumentationData
  universalInstrumentationStartEventsWithId : AList (fun _ : String => UniversalInstrumentationData)
  universalInstrumentationEndEventsWithId : AList (fun _ : String => UniversalInstrumentationData)
  sortedReparentingInfo : List ReparentingInfo

/-- Invocations meet start events, finished runtimes meet end events. -/
abbrev Meeting := Rendezvous String UniversalInstrumentationData

namespace ContextBuffer

def withCapacity (capacity : Nat) : ContextBuffer where
  capacity := capacity
  buffer := []
  invokeEventsRequestIds := []
  platformRuntimeDoneEventsRequestIds := []
  universalInstrumentationStartEvents := []
  universalInstrumentationEndEvents := []
  universalInstrumentationStartEventsWithId := ∅
  universalInstrumentationEndEventsWithId := ∅
  sortedReparentingInfo := []

/-- `ContextBuffer::default` -/
def default : ContextBuffer := withCapacity 500

def size (contexts : ContextBuffer) : Nat := contexts.buffer.length

def isEmpty (contexts : ContextBuffer) : Bool := contexts.buffer.isEmpty

def named (requestId : String) (context : Context) : Bool := context.requestId == requestId

def get (requestId : String) (contexts : ContextBuffer) : Option Context :=
  contexts.buffer.find? (named requestId)

/-- `get_mut` followed by an assignment through the reference. -/
def update (requestId : String) (change : Context -> Context) (contexts : ContextBuffer) :
    ContextBuffer :=
  { contexts with buffer := modifyFirst (named requestId) change contexts.buffer }

def remove (requestId : String) (contexts : ContextBuffer) : ContextBuffer :=
  { contexts with buffer := contexts.buffer.eraseP (named requestId) }

/-- A full buffer drops its oldest context, whatever its request id; otherwise
the context replaces one of the same request id. -/
def insert (context : Context) (contexts : ContextBuffer) : ContextBuffer :=
  if contexts.size = contexts.capacity then
    { contexts with buffer := contexts.buffer.tail ++ [context] }
  else
    let cleared :=
      if (contexts.get context.requestId).isSome then contexts.remove context.requestId
      else contexts
    { cleared with buffer := cleared.buffer ++ [context] }

/-- The loop of `get_closest_mut`: the position of the first context with the
least distance, if that is below `i64::MAX`. -/
def closestIndex (timestamp : Int) (contexts : ContextBuffer) : Option Nat :=
  (contexts.buffer.zipIdx.foldl (fun closest entry =>
    let diff := |entry.1.createdAt - timestamp|
    if diff < closest.1 then (diff, some entry.2) else closest) ((2 : Int) ^ 63 - 1, none)).2

/-- `get_closest_mut` followed by an assignment through the reference. -/
def updateClosest (timestamp : Int) (change : Context -> Context) (contexts : ContextBuffer) :
    ContextBuffer :=
  match contexts.closestIndex timestamp with
  | none => contexts
  | some index => { contexts with buffer := contexts.buffer.modify index change }

/-! ## Pairing -/

def starts (contexts : ContextBuffer) : Meeting :=
  ⟨contexts.invokeEventsRequestIds, contexts.universalInstrumentationStartEvents,
    contexts.universalInstrumentationStartEventsWithId⟩

def setStarts (contexts : ContextBuffer) (meeting : Meeting) : ContextBuffer :=
  { contexts with
    invokeEventsRequestIds := meeting.waiting
    universalInstrumentationStartEvents := meeting.queued
    universalInstrumentationStartEventsWithId := meeting.keyed }

def ends (contexts : ContextBuffer) : Meeting :=
  ⟨contexts.platformRuntimeDoneEventsRequestIds, contexts.universalInstrumentationEndEvents,
    contexts.universalInstrumentationEndEventsWithId⟩

def setEnds (contexts : ContextBuffer) (meeting : Meeting) : ContextBuffer :=
  { contexts with
    platformRuntimeDoneEventsRequestIds := meeting.waiting
    universalInstrumentationEndEvents := meeting.queued
    universalInstrumentationEndEventsWithId := meeting.keyed }

@[simp] theorem starts_setStarts (contexts : ContextBuffer) (meeting : Meeting) :
    (contexts.setStarts meeting).starts = meeting := rfl

@[simp] theorem ends_setEnds (contexts : ContextBuffer) (meeting : Meeting) :
    (contexts.setEnds meeting).ends = meeting := rfl

def pairInvokeEvent (requestId : String) (contexts : ContextBuffer) :
    Option UniversalInstrumentationData × ContextBuffer :=
  let (found, meeting) := contexts.starts.openNext requestId
  (found, contexts.setStarts meeting)

def pairUniversalInstrumentationStartEvent (event : UniversalInstrumentationData)
    (contexts : ContextBuffer) : Option String × ContextBuffer :=
  let (found, meeting) := contexts.starts.arriveNext event
  (found, contexts.setStarts meeting)

def pairUniversalInstrumentationEndEvent (event : UniversalInstrumentationData)
    (contexts : ContextBuffer) : Option String × ContextBuffer :=
  let (found, meeting) := contexts.ends.arriveNext event
  (found, contexts.setEnds meeting)

def pairPlatformRuntimeDoneEvent (requestId : String) (contexts : ContextBuffer) :
    Option UniversalInstrumentationData × ContextBuffer :=
  let (found, meeting) := contexts.ends.openNext requestId
  (found, contexts.setEnds meeting)

def pairUniversalInstrumentationStartWithRequestId (requestId : String)
    (event : UniversalInstrumentationData) (contexts : ContextBuffer) : Bool × ContextBuffer :=
  let (found, meeting) := contexts.starts.arriveFor requestId event
  (found, contexts.setStarts meeting)

def takeUniversalInstrumentationStartForRequestId (requestId : String) (contexts : ContextBuffer) :
    Option UniversalInstrumentationData × ContextBuffer :=
  let (found, meeting) := contexts.starts.takeFor requestId
  (found, contexts.setStarts meeting)

def pairUniversalInstrumentationEndWithRequestId (requestId : String)
    (event : UniversalInstrumentationData) (contexts : ContextBuffer) : Bool × ContextBuffer :=
  let (found, meeting) := contexts.ends.arriveFor requestId event
  (found, contexts.setEnds meeting)

def takeUniversalInstrumentationEndForRequestId (requestId : String) (contexts : ContextBuffer) :
    Option UniversalInstrumentationData × ContextBuffer :=
  let (found, meeting) := contexts.ends.takeFor requestId
  (found, contexts.setEnds meeting)

/-! ## Contexts -/

def setRequestIdTag (requestId : String) (span : Span) : Span :=
  { span with metaTags := span.metaTags.insert "request_id" requestId }

/-- `start_context`, with the time the new context reads. -/
def startContext (now : Int) (requestId : String) (invocationSpan : Span)
    (contexts : ContextBuffer) : ContextBuffer :=
  contexts.insert
    { createdAt := now
      requestId := requestId
      invocationSpan := setRequestIdTag requestId invocationSpan }

/-- `update_empty_context_request_id` -/
def updateEmptyContextRequestId (requestId : String) (contexts : ContextBuffer) :
    Bool × ContextBuffer :=
  ((contexts.get "").isSome, contexts.update "" (fun context => { context with
    requestId := requestId
    invocationSpan := setRequestIdTag requestId context.invocationSpan }))

def addStartTime (requestId : String) (startTime : Int) : ContextBuffer -> ContextBuffer :=
  update requestId (fun context => { context with
    invocationSpan := { context.invocationSpan with start := startTime } })

def addRuntimeDuration (requestId : String) (runtimeDurationMs : Rat) :
    ContextBuffer -> ContextBuffer :=
  update requestId (fun context => { context with
    runtimeDurationMs := runtimeDurationMs
    invocationSpan := { context.invocationSpan with
      duration := castI64 (roundHalfAway (mulF64 runtimeDurationMs msToNs)) } })

def addEnhancedMetricData (requestId : String) (data : Option EnhancedMetricData) :
    ContextBuffer -> ContextBuffer :=
  update requestId (fun context => { context with enhancedMetricData := data })

def addTracerSpan (requestId : String) (tracerSpan : Span) (clientComputedStats : Bool) :
    ContextBuffer -> ContextBuffer :=
  update requestId (fun context => { context with
    clientComputedStats := clientComputedStats
    invocationSpan := { context.invocationSpan with
      metaTags := extend context.invocationSpan.metaTags tracerSpan.metaTags
      metaStruct := extend context.invocationSpan.metaStruct tracerSpan.metaStruct
      metrics := extend context.invocationSpan.metrics tracerSpan.metrics }
    tracerSpan := some tracerSpan })

def hasColdStart (context : Context) : Bool := context.coldStartSpan.isSome

def getContextWithColdStart (contexts : ContextBuffer) : Option Context :=
  contexts.buffer.find? hasColdStart

/-- `get_context_with_cold_start` followed by an assignment through the
reference. -/
def updateColdStart (change : Context -> Context) (contexts : ContextBuffer) : ContextBuffer :=
  { contexts with buffer := modifyFirst hasColdStart change contexts.buffer }

end ContextBuffer
end Lifecycle
end Bottlecap
