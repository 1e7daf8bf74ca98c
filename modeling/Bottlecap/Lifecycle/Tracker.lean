import Bottlecap.Foundations.Machine
import Bottlecap.Lifecycle.Handlers

namespace Bottlecap
namespace Lifecycle

open Foundations Extension

/-!
# Tracking invocations

What remains of the processor when only identifiers matter: which requests have
a buffered context, whether the end of their runtime was seen, the two ids of the
invocation span, and the events that wait for their counterpart.  The log keeps
what a run did with the events: which start or end event was processed for which
request, whether it found the context, whose context was handed over to be sent, and
whose spans were sent.  On the first path both happen at once.  On the second one the
trace agent gets the context and comes back with it.

This is the specification of pairing and sending.  `Simulation` shows that every
command changes the view of the processor as the tracker says.
-/

/-- A buffered context.  `extracted` is the low half of the trace id found in the
start event, `0` if there is none. -/
structure Entry where
  requestId : String
  runtimeDone : Bool := false
  traceId : UInt64 := 0
  spanId : UInt64 := 0
  extracted : UInt64 := 0
  deriving DecidableEq

inductive Milestone where
  | started (requestId : String) (event : UniversalInstrumentationData) (found : Bool)
  | ended (requestId : String) (event : UniversalInstrumentationData) (found : Bool)
  | handedOver (path : SendPath) (requestId : String)
  | sent (requestId : String)

/-- An event that was processed for a request, and whether there was a context. -/
structure Processed where
  requestId : String
  event : UniversalInstrumentationData
  found : Bool

/-- The payload of a request is processed if data streams are monitored. -/
def Env.mark (env : Env) (requestId : String) (dsm : Finset String) : Finset String :=
  if env.dsmEnabled then insert requestId dsm else dsm

/-- So is the one of a start event that found its context. -/
def Env.marked (env : Env) (dsm : Finset String) : Option Processed -> Finset String
  | some ⟨requestId, _, true⟩ => env.mark requestId dsm
  | _ => dsm

structure Tracker where
  capacity : Nat
  entries : List Entry
  awaitingFirstInvocation : Bool
  tracerDetected : Bool
  starts : Meeting
  ends : Meeting
  reparenting : List String
  dsm : Finset String
  log : List Milestone

namespace Entry

def named (requestId : String) (entry : Entry) : Bool := entry.requestId == requestId

def complete (entry : Entry) : Bool := entry.traceId != 0 && entry.spanId != 0

variable (env : Env) (ambient : Ambient)

def onStart (event : UniversalInstrumentationData) (entry : Entry) : Entry :=
  match extractSpanContext env.libraries env.triggers event.headers event.payloadValue with
  | some spanContext => { entry with
      extracted := spanContext.lowTraceId
      traceId := spanContext.lowTraceId }
  | none => { entry with extracted := 0 }

/-- The trace id an end event brings, `0` if none. -/
def endTraceId (headers : Tags) (entry : Entry) : UInt64 :=
  if entry.extracted = 0 then (Context.headerId headers "x-datadog-trace-id").getD 0
  else entry.extracted

def onEnd (headers : Tags) (entry : Entry) : Entry :=
  { entry with
    spanId := (Context.headerId headers "x-datadog-span-id").getD entry.spanId
    traceId := if entry.endTraceId headers = 0 then entry.traceId else entry.endTraceId headers }

def onDone (status : Status) (entry : Entry) : Entry :=
  { entry with
    runtimeDone := true
    traceId := if status = .timeout ∧ entry.traceId = 0 then
      ambient.generateSpanId .timeoutTrace else entry.traceId
    spanId := if status = .timeout ∧ entry.spanId = 0 then
      ambient.generateSpanId .timeoutSpan else entry.spanId }

def reparent (info : ReparentingInfo) (entry : Entry) : Entry :=
  { entry with
    spanId := if entry.spanId = 0 then info.invocationSpanId else entry.spanId
    traceId := if entry.traceId = 0 then info.guessedTraceId else entry.traceId }

end Entry

namespace Tracker

def find (requestId : String) (tracker : Tracker) : Option Entry :=
  tracker.entries.find? (Entry.named requestId)

def update (requestId : String) (change : Entry -> Entry) (tracker : Tracker) : Tracker :=
  { tracker with entries := modifyFirst (Entry.named requestId) change tracker.entries }

def note (milestone : Milestone) (tracker : Tracker) : Tracker :=
  { tracker with log := tracker.log ++ [milestone] }

/-- A full buffer drops its oldest entry, otherwise one of the same request. -/
def insert (entry : Entry) (tracker : Tracker) : Tracker :=
  { tracker with entries :=
      (if tracker.entries.length = tracker.capacity then tracker.entries.tail
        else tracker.entries.eraseP (Entry.named entry.requestId)) ++ [entry] }

variable (env : Env) (ambient : Ambient)

def recordDsm (requestId : String) (tracker : Tracker) : Tracker :=
  if env.dsmEnabled then { tracker with dsm := Insert.insert requestId tracker.dsm } else tracker

def processStart (requestId : String) (event : UniversalInstrumentationData) (tracker : Tracker) :
    Tracker :=
  match tracker.find requestId with
  | none => tracker.note (.started requestId event false)
  | some _ => ((tracker.update requestId (Entry.onStart env event)).note
      (.started requestId event true)).recordDsm env requestId

def processEnd (requestId : String) (event : UniversalInstrumentationData) (tracker : Tracker) :
    Tracker :=
  match tracker.find requestId with
  | none => tracker.note (.ended requestId event false)
  | some _ => (tracker.update requestId (Entry.onEnd event.headers)).note
      (.ended requestId event true)

/-- A named start event of a buffered request is processed at once in Managed
Instance mode. -/
def startsAtOnce (requestId : Option String) (tracker : Tracker) : Option String :=
  requestId.filter (fun id => env.isManagedInstanceMode && (tracker.find id).isSome)

/-- Every other start event meets its invocation. -/
def start (event : UniversalInstrumentationData) (requestId : Option String) (tracker : Tracker) :
    Tracker :=
  let tracker := { tracker with tracerDetected := true }
  match tracker.startsAtOnce env requestId with
  | some id => tracker.processStart env id event
  | none =>
    let met := tracker.starts.arrives requestId event
    match met.1 with
    | some id => { tracker with starts := met.2 }.processStart env id event
    | none => { tracker with starts := met.2 }

def finish (event : UniversalInstrumentationData) (requestId : Option String) (tracker : Tracker) :
    Tracker :=
  let met := tracker.ends.arrives requestId event
  match met.1 with
  | some id => { tracker with ends := met.2 }.processEnd id event
  | none => { tracker with ends := met.2 }

/-- The entry of an invocation: the first one of a Managed Instance takes over the
empty entry of the init phase. -/
def enter (requestId : String) (tracker : Tracker) : Tracker :=
  if env.isManagedInstanceMode ∧ tracker.awaitingFirstInvocation = true then
    let entered :=
      if (tracker.find "").isSome then
        tracker.update "" (fun entry => { entry with requestId := requestId })
      else tracker.insert { requestId := requestId }
    { entered with awaitingFirstInvocation := false }
  else tracker.insert { requestId := requestId }

def pairStart (requestId : String) (tracker : Tracker) : Tracker :=
  let met := tracker.starts.opens (!env.isManagedInstanceMode) requestId
  match met.1 with
  | some event => { tracker with starts := met.2 }.processStart env requestId event
  | none => { tracker with starts := met.2 }

def invoke (requestId : String) (tracker : Tracker) : Tracker :=
  (tracker.enter env requestId).pairStart env requestId

def pairEnd (requestId : String) (tracker : Tracker) : Tracker :=
  let met := tracker.ends.opens (!env.isManagedInstanceMode) requestId
  match met.1 with
  | some event => { tracker with ends := met.2 }.processEnd requestId event
  | none => { tracker with ends := met.2 }

/-- The end of the runtime is recorded, and complete spans of a traced function
are handed over and sent. -/
def settle (requestId : String) (status : Status) (tracker : Tracker) : Tracker :=
  match tracker.find requestId with
  | none => tracker
  | some entry =>
    let settled := tracker.update requestId (Entry.onDone ambient status)
    if tracker.tracerDetected = true ∧ (entry.onDone ambient status).complete = true then
      (settled.note (.handedOver .runtimeDone requestId)).note
        (.sent requestId)
    else settled

def runtimeDone (requestId : String) (status : Status) (tracker : Tracker) : Tracker :=
  (tracker.pairEnd env requestId).settle ambient requestId status

def release (requestId : String) (tracker : Tracker) : Tracker :=
  { tracker with
    entries := tracker.entries.eraseP (Entry.named requestId)
    dsm := tracker.dsm.erase requestId
    reparenting := tracker.reparenting.filter (fun id => id != requestId) }

def report (requestId : String) (metrics : ReportMetrics) (status : Status) (tracker : Tracker) :
    Tracker :=
  let finished :=
    match metrics with
    | .managedInstance _ =>
      if (tracker.find requestId).isSome then tracker.runtimeDone env ambient requestId status
      else tracker
    | .onDemand _ => tracker
  finished.release requestId

def addReparenting (requestId : String) (tracker : Tracker) : Tracker :=
  if requestId ∈ tracker.reparenting then tracker
  else
    let kept :=
      if tracker.reparenting.length = tracker.capacity then tracker.reparenting.tail
      else tracker.reparenting
    { tracker with reparenting := kept ++ [requestId] }

def reparent (tracker : Tracker) (info : ReparentingInfo) : Tracker :=
  match tracker.find info.requestId with
  | none => tracker
  | some entry =>
    let updated := tracker.update info.requestId (Entry.reparent info)
    if entry.complete = false ∧ (entry.reparent info).complete = true ∧
        entry.runtimeDone = true then
      updated.note (.handedOver .updateReparenting info.requestId)
    else updated

def handle (tracker : Tracker) : Command -> Tracker
  | .invokeEvent requestId => tracker.invoke env requestId
  | .platformInitStart _ _ =>
    if env.isManagedInstanceMode then
      { tracker.insert { requestId := "" } with awaitingFirstInvocation := true }
    else tracker
  | .platformStart requestId _ =>
    if env.isManagedInstanceMode then tracker.invoke env requestId else tracker
  | .platformRuntimeDone requestId _ status _ _ =>
    tracker.runtimeDone env ambient requestId status
  | .platformReport requestId metrics _ status _ _ =>
    tracker.report env ambient requestId metrics status
  | .universalInstrumentationStart event requestId => tracker.start env event requestId
  | .universalInstrumentationEnd event requestId => tracker.finish event requestId
  | .recordDsmConsumeFromPayload requestId _ => tracker.recordDsm env requestId
  | .addReparenting requestId _ _ => tracker.addReparenting requestId
  | .updateReparenting infos => infos.foldl reparent tracker
  | .sendCtxSpans context => tracker.note (.sent context.requestId)
  | _ => tracker

def step (tracker : Tracker) (input : Processor.Input) : Tracker :=
  tracker.handle env input.ambient input.command

/-! ## The events that a command pairs -/

variable (tracker : Tracker)

/-- The request that a start or end event is processed for. -/
def paired : Command -> Option String
  | .universalInstrumentationStart event id =>
    (tracker.startsAtOnce env id).or (tracker.starts.arrives id event).1
  | .universalInstrumentationEnd event id => (tracker.ends.arrives id event).1
  | _ => none

def startsAfter : Command -> Meeting
  | .invokeEvent requestId =>
    (tracker.starts.opens (!env.isManagedInstanceMode) requestId).2
  | .platformStart requestId _ =>
    if env.isManagedInstanceMode then (tracker.starts.opens false requestId).2
    else tracker.starts
  | .universalInstrumentationStart event requestId =>
    if (tracker.startsAtOnce env requestId).isSome then tracker.starts
    else (tracker.starts.arrives requestId event).2
  | _ => tracker.starts

def endsAfter : Command -> Meeting
  | .platformRuntimeDone requestId _ _ _ _ =>
    (tracker.ends.opens (!env.isManagedInstanceMode) requestId).2
  | .platformReport requestId (.managedInstance _) _ _ _ _ =>
    if (tracker.find requestId).isSome then
      (tracker.ends.opens (!env.isManagedInstanceMode) requestId).2
    else tracker.ends
  | .universalInstrumentationEnd event requestId =>
    (tracker.ends.arrives requestId event).2
  | _ => tracker.ends

/-- A new invocation finds its own context. -/
def startProcessed (command : Command) : Option Processed :=
  match command with
  | .invokeEvent requestId =>
    (tracker.starts.opens (!env.isManagedInstanceMode) requestId).1.map
      (fun event => ⟨requestId, event, true⟩)
  | .platformStart requestId _ =>
    if env.isManagedInstanceMode then
      (tracker.starts.opens false requestId).1.map (fun event => ⟨requestId, event, true⟩)
    else none
  | .universalInstrumentationStart event _ =>
    (tracker.paired env command).map
      (fun requestId => ⟨requestId, event, (tracker.find requestId).isSome⟩)
  | _ => none

def endProcessed (command : Command) : Option Processed :=
  match command with
  | .platformRuntimeDone requestId _ _ _ _ =>
    (tracker.ends.opens (!env.isManagedInstanceMode) requestId).1.map
      (fun event => ⟨requestId, event, (tracker.find requestId).isSome⟩)
  | .platformReport requestId (.managedInstance _) _ _ _ _ =>
    if (tracker.find requestId).isSome then
      (tracker.ends.opens (!env.isManagedInstanceMode) requestId).1.map
        (fun event => ⟨requestId, event, true⟩)
    else none
  | .universalInstrumentationEnd event _ =>
    (tracker.paired env command).map
      (fun requestId => ⟨requestId, event, (tracker.find requestId).isSome⟩)
  | _ => none

/-! ## What the operations write -/

theorem update_of_missing {requestId : String} (missing : tracker.find requestId = none)
    (change : Entry -> Entry) : tracker.update requestId change = tracker := by
  unfold update
  rw [modifyFirst_of_find?_none missing]

variable (event : UniversalInstrumentationData)

theorem processStart_eq (requestId : String) :
    tracker.processStart env requestId event =
      { tracker.update requestId (Entry.onStart env event) with
        log := tracker.log ++ [.started requestId event (tracker.find requestId).isSome]
        dsm := env.marked tracker.dsm
          (some ⟨requestId, event, (tracker.find requestId).isSome⟩) } := by
  unfold processStart
  cases found : tracker.find requestId with
  | none =>
    rw [update_of_missing tracker found]
    rfl
  | some =>
    unfold recordDsm Env.marked Env.mark
    simp only [Option.isSome_some]
    split <;> rfl

theorem processEnd_eq (requestId : String) :
    tracker.processEnd requestId event =
      { tracker.update requestId (Entry.onEnd event.headers) with
        log := tracker.log ++
          [.ended requestId event (tracker.find requestId).isSome] } := by
  unfold processEnd
  cases found : tracker.find requestId with
  | none =>
    rw [update_of_missing tracker found]
    rfl
  | some => rfl

/-- What is noted on a path. -/
def milestonesOf : SendPath -> String -> List Milestone
  | .runtimeDone, requestId =>
    [.handedOver .runtimeDone requestId, .sent requestId]
  | .updateReparenting, requestId =>
    [.handedOver .updateReparenting requestId]

/-- The spans of a request are handed over, if they are. -/
def handOver (path : SendPath) (requestId : String) (ready : Entry -> Bool) : List Milestone :=
  if (tracker.find requestId).any ready then milestonesOf path requestId else []

theorem settle_eq (requestId : String) (status : Status) :
    tracker.settle ambient requestId status =
      { tracker.update requestId (Entry.onDone ambient status) with
        log := tracker.log ++ tracker.handOver .runtimeDone requestId (fun entry =>
          tracker.tracerDetected && (entry.onDone ambient status).complete) } := by
  unfold settle handOver
  cases found : tracker.find requestId with
  | none =>
    rw [update_of_missing tracker found, Option.any_none, if_neg Bool.false_ne_true,
      List.append_nil]
  | some entry =>
    simp only [Option.any_some, Bool.and_eq_true]
    split
    · simp only [note, List.append_assoc]
      rfl
    · rw [List.append_nil]
      rfl

theorem reparent_eq (info : ReparentingInfo) :
    tracker.reparent info =
      { tracker.update info.requestId (Entry.reparent info) with
        log := tracker.log ++ tracker.handOver .updateReparenting info.requestId
          (fun entry =>
            !entry.complete && ((entry.reparent info).complete && entry.runtimeDone)) } := by
  unfold reparent handOver
  cases found : tracker.find info.requestId with
  | none =>
    rw [update_of_missing tracker found, Option.any_none, if_neg Bool.false_ne_true,
      List.append_nil]
  | some entry =>
    simp only [Option.any_some, Bool.and_eq_true, Bool.not_eq_true']
    split
    · rfl
    · rw [List.append_nil]
      rfl

theorem start_eq (requestId : Option String) :
    tracker.start env event requestId =
      let command := .universalInstrumentationStart event requestId
      let met := { tracker with
        tracerDetected := true
        starts := tracker.startsAfter env command }
      (tracker.paired env command).elim met (fun id => met.processStart env id event) := by
  have atOnce : { tracker with tracerDetected := true }.startsAtOnce env requestId =
      tracker.startsAtOnce env requestId := rfl
  unfold start paired startsAfter
  simp only [atOnce]
  cases tracker.startsAtOnce env requestId with
  | some => rfl
  | none =>
    cases (tracker.starts.arrives requestId event).1 <;> rfl

theorem finish_eq (requestId : Option String) :
    tracker.finish event requestId =
      let command := .universalInstrumentationEnd event requestId
      let met := { tracker with ends := tracker.endsAfter env command }
      (tracker.paired env command).elim met (fun id => met.processEnd id event) := by
  unfold finish paired endsAfter
  simp only
  cases (tracker.ends.arrives requestId event).1 <;> rfl

end Tracker
end Lifecycle
end Bottlecap
