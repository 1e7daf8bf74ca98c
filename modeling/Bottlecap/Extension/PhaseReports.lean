import Bottlecap.Extension.EventLoop

namespace Bottlecap
namespace Extension

open Foundations Lifecycle

/-!
# Which invocation a phase report reaches

The start and the report of an init or restore phase carry no request id.  Both
handlers search the context buffer for the context whose `created_at` is closest
to the event.  A `created_at` counts nanoseconds.  The start handlers convert the
time of their event to nanoseconds themselves; the report handlers use the
timestamp that `handle_event_bus_event` passes, which counts whole seconds.

The search is the loop `scanLeast`.  From its specification follows where a report
goes: to the first context nearest to the number of seconds, which is the oldest one
with a clock that is past the first seconds of the epoch.
-/

/-! ## The search -/

/-- The first context of the buffer whose `created_at` is nearest to a point. -/
structure FirstNearest (point : Int) (contexts : List Context) (before : List Context)
    (context : Context) (after : List Context) : Prop where
  split : contexts = before ++ context :: after
  strict : forall other, other ∈ before ->
    |context.createdAt - point| < |other.createdAt - point|
  least : forall other, other ∈ after ->
    |context.createdAt - point| <= |other.createdAt - point|

theorem FirstNearest.nearest {point : Int} {contexts before after : List Context}
    {context : Context} (first : FirstNearest point contexts before context after)
    {other : Context} (member : other ∈ contexts) :
    |context.createdAt - point| <= |other.createdAt - point| := by
  rw [first.split, List.mem_append, List.mem_cons] at member
  rcases member with early | rfl | late
  · exact (first.strict other early).le
  · exact le_refl _
  · exact first.least other late

theorem closestIndex_eq_scan (point : Int) (contexts : ContextBuffer) :
    contexts.closestIndex point =
      (scanLeast (fun context : Context => |context.createdAt - point|)
        (contexts.buffer.zipIdx 0) ((2 : Int) ^ 63 - 1, none)).2 := rfl

/-- `get_closest_mut` finds the first nearest context, if any is near enough. -/
theorem closestIndex_cases (point : Int) (contexts : ContextBuffer) :
    (forall context, context ∈ contexts.buffer -> (2 : Int) ^ 63 - 1 <= |context.createdAt - point|) ∨
      Exists fun before => Exists fun context => Exists fun after =>
          FirstNearest point contexts.buffer before context after ∧
            contexts.closestIndex point = some before.length := by
  rw [closestIndex_eq_scan]
  rcases scanLeast_cases (fun context : Context => |context.createdAt - point|) contexts.buffer 0
    ((2 : Int) ^ 63 - 1, none) with
    ⟨_, bounds⟩ | ⟨before, context, after, split, scanned, _, strict, least⟩
  · exact Or.inl bounds
  · right
    refine ⟨before, context, after, ⟨split, strict, least⟩, ?_⟩
    rw [scanned, Nat.zero_add]

theorem FirstNearest.get {point : Int} {contexts before after : List Context}
    {context : Context} (first : FirstNearest point contexts before context after) :
    contexts[before.length]? = some context := by
  rw [first.split, List.getElem?_append_right (Nat.le_refl _), Nat.sub_self]
  rfl

/-! ## Phases -/

/-- The two phases of a sandbox that have spans of their own. -/
inductive Phase where
  | init
  | restore

namespace Phase

/-- The span of a phase on a context. -/
def span : Phase -> Context -> Option Span
  | init, context => context.coldStartSpan
  | restore, context => context.snapstartRestoreSpan

def setSpan : Phase -> Option Span -> Context -> Context
  | init, span, context => { context with coldStartSpan := span }
  | restore, span, context => { context with snapstartRestoreSpan := span }

@[simp] theorem span_setSpan (phase : Phase) (span : Option Span) (context : Context) :
    phase.span (phase.setSpan span context) = span := by
  cases phase <;> rfl

/-- A span with the duration of a report. -/
def timed (durationMs : Rat) (span : Span) : Span :=
  { span with duration := castI64 (mulF64 durationMs msToNs) }

/-- What a report does to the context it selects. -/
def addDuration (phase : Phase) (durationMs : Rat) (context : Context) : Context :=
  phase.setSpan ((phase.span context).map (timed durationMs)) context

/-- The span that the start of a phase creates. -/
def startSpan (env : Env) (ambient : Ambient) (time : DateTime) : Phase -> Span
  | init => Processor.phaseSpan env ambient "aws.lambda.cold_start" .coldStart time
  | restore => Processor.phaseSpan env ambient "aws.lambda.snapstart_restore"
      .snapstartRestore time

/-- The records that report the start of a phase. -/
inductive Starts : Phase -> TelemetryRecord -> Prop
  | init (type : InitType) (phase : InitPhase) (version arn : Option String) :
      Starts init (.platformInitStart type phase version arn)
  | restore : Starts restore .platformRestoreStart

/-- The records that report a phase and its duration. -/
inductive Reports : Phase -> Rat -> TelemetryRecord -> Prop
  | init (type : InitType) (phase : InitPhase) (durationMs : Rat) :
      Reports init durationMs (.platformInitReport type phase ⟨durationMs⟩)
  | restore (status : Status) (errorType : Option String) (durationMs : Rat) :
      Reports restore durationMs
        (.platformRestoreReport status errorType (some ⟨durationMs⟩))

end Phase

/-- The main loop hands an event of the bus to the processor. -/
def deliver (env : Env) (ambient : Ambient) (processor : Processor) (event : TelemetryEvent) :
    Processor :=
  (handleEventBusEvent (.telemetry event)).1.foldl
    (fun current command => current.handle env ambient command) processor

section Delivery

variable {env : Env} (onDemand : env.isManagedInstanceMode = false) (ambient : Ambient)
  (processor : Processor) (time : DateTime)

include onDemand

/-- A report is searched for in seconds. -/
theorem deliver_report {phase : Phase} {durationMs : Rat} {record : TelemetryRecord}
    (reports : phase.Reports durationMs record) :
    (deliver env ambient processor ⟨time, record⟩).contextBuffer =
      processor.contextBuffer.updateClosest time.timestamp (phase.addDuration durationMs) := by
  cases reports with
  | init type _ durationMs =>
    have kept : (processor.measureInitDuration type durationMs time.timestamp).contextBuffer =
        processor.contextBuffer := by
      rw [Processor.measureInitDuration]
      split <;> rfl
    change (processor.onPlatformInitReport env type durationMs time.timestamp).contextBuffer = _
    rw [Processor.onPlatformInitReport]
    simp only [onDemand]
    rw [<- kept]
    rfl
  | restore => rfl

end Delivery

/-! ## Seconds and nanoseconds -/

/-- The search for `point` selects a context that is nearest to the time of the event. -/
def SelectsNearest (point : Int) (time : DateTime) (contexts : ContextBuffer) : Prop :=
  contexts.buffer = [] ∨
    Exists fun index => Exists fun context =>
      contexts.closestIndex point = some index ∧ contexts.buffer[index]? = some context ∧
        forall other, other ∈ contexts.buffer ->
          |context.createdAt - time| <= |other.createdAt - time|

/-- Every context was created at least as many nanoseconds after the epoch as the event came
seconds after it, and before `i64` ends. -/
def ClockAhead (time : DateTime) (contexts : ContextBuffer) : Prop :=
  forall context, context ∈ contexts.buffer ->
    time.timestamp <= context.createdAt ∧ context.createdAt < (2 : Int) ^ 63 - 1

/-- The event does not lie past the middle between any two contexts. -/
def NotPastMiddle (time : DateTime) (contexts : ContextBuffer) : Prop :=
  forall older younger, older ∈ contexts.buffer -> younger ∈ contexts.buffer ->
    older.createdAt < younger.createdAt ->
      2 * (time : Int) <= older.createdAt + younger.createdAt

/-- The first context nearest to the seconds is the oldest one. -/
theorem FirstNearest.oldest {time : DateTime} {contexts : ContextBuffer}
    {before after : List Context} {context : Context}
    (first : FirstNearest time.timestamp contexts.buffer before context after)
    (ahead : ClockAhead time contexts) {other : Context} (member : other ∈ contexts.buffer) :
    context.createdAt <= other.createdAt := by
  have nearer := first.nearest member
  have own : context ∈ contexts.buffer := List.mem_of_getElem? first.get
  rwa [abs_of_nonneg (Int.sub_nonneg.mpr (ahead context own).1),
    abs_of_nonneg (Int.sub_nonneg.mpr (ahead other member).1), sub_le_sub_iff_right] at nearer

theorem closestIndex_of_ahead {time : DateTime} {contexts : ContextBuffer}
    (ahead : ClockAhead time contexts) :
    contexts.buffer = [] ∨
      Exists fun before => Exists fun context => Exists fun after =>
          FirstNearest time.timestamp contexts.buffer before context after ∧
            contexts.closestIndex time.timestamp = some before.length := by
  rcases closestIndex_cases time.timestamp contexts with far | found
  · left
    apply List.eq_nil_iff_forall_not_mem.mpr
    intro context member
    have distance := far context member
    have created := ahead context member
    rw [abs_of_nonneg (Int.sub_nonneg.mpr created.1)] at distance
    have seconds : 0 <= time.timestamp := by
      rw [DateTime.timestamp]
      omega
    omega
  · exact Or.inr found

/-- Of two contexts the older one is nearest to an event up to their middle. -/
theorem older_nearest_iff {older younger time : Int} (order : older <= younger) :
    |older - time| <= |younger - time| <-> (older < younger -> 2 * time <= older + younger) := by
  rcases abs_cases (older - time) with ⟨first, _⟩ | ⟨first, _⟩ <;>
  rcases abs_cases (younger - time) with ⟨second, _⟩ | ⟨second, _⟩ <;>
  constructor <;> omega

theorem selectsNearest_iff {time : DateTime} {contexts : ContextBuffer}
    (ahead : ClockAhead time contexts) :
    SelectsNearest time.timestamp time contexts <-> NotPastMiddle time contexts := by
  rcases closestIndex_of_ahead ahead with empty | ⟨before, context, after, first, found⟩
  · refine iff_of_true (Or.inl empty) ?_
    intro older younger olderIn
    rw [empty] at olderIn
    cases olderIn
  · constructor
    · rintro (empty | ⟨index, selected, same, listed, nearest⟩) older younger olderIn youngerIn less
      · rw [empty] at olderIn
        cases olderIn
      · rw [found] at same
        cases same
        rw [first.get] at listed
        cases listed
        have oldest := first.oldest ahead olderIn
        have middle := (older_nearest_iff (first.oldest ahead youngerIn)).mp (nearest _ youngerIn)
          (by omega)
        omega
    · intro middle
      refine Or.inr ⟨before.length, context, found, first.get, ?_⟩
      intro other member
      exact (older_nearest_iff (first.oldest ahead member)).mpr
        (middle context other (List.mem_of_getElem? first.get) member)

/-! ## The report of a phase -/

/-- The context at a position is nearer to the event than every other one. -/
def NearestAt (time : DateTime) (contexts : ContextBuffer) (index : Nat) : Prop :=
  forall context, contexts.buffer[index]? = some context ->
    forall position other, position ≠ index -> contexts.buffer[position]? = some other ->
      |context.createdAt - time| < |other.createdAt - time|

/-- A search that selects a nearest context selects the one that is nearer than the others. -/
theorem SelectsNearest.index_eq {point : Int} {time : DateTime} {contexts : ContextBuffer}
    {index : Nat} {context : Context} (selects : SelectsNearest point time contexts)
    (listed : contexts.buffer[index]? = some context) (nearest : NearestAt time contexts index) :
    contexts.closestIndex point = some index := by
  rcases selects with empty | ⟨position, selected, found, there, near⟩
  · rw [empty] at listed
    cases listed
  · by_cases same : position = index
    · rw [found, same]
    · have farther := nearest context listed position selected same there
      exact absurd (near context (List.mem_of_getElem? listed)) (not_le.mpr farther)

/-- The report of a phase writes its duration to the span that the start of the phase
created: the start was delivered earlier and selected the context at `index`, the same
contexts are buffered, that context still has the span, and no other one is as near to the
report. -/
def ReachesStarted (env : Env) (phase : Phase) (durationMs : Rat) (time : DateTime)
    (processor after : Processor) : Prop :=
  forall (earlier : Processor) (ambient : Ambient) (startTime : DateTime)
    (record : TelemetryRecord) (index : Nat), phase.Starts record ->
    earlier.contextBuffer.closestIndex (startTimeOf startTime) = some index ->
    processor.contextBuffer.buffer.map Context.createdAt =
      (deliver env ambient earlier ⟨startTime, record⟩).contextBuffer.buffer.map
        Context.createdAt ->
    (processor.contextBuffer.buffer[index]?).bind phase.span =
      some (phase.startSpan env ambient startTime) ->
    NearestAt time processor.contextBuffer index ->
    (after.contextBuffer.buffer[index]?).bind phase.span =
      some (Phase.timed durationMs (phase.startSpan env ambient startTime))

theorem SelectsNearest.reachesStarted {point : Int} {time : DateTime} {processor after : Processor}
    (selects : SelectsNearest point time processor.contextBuffer) (env : Env) {phase : Phase}
    {durationMs : Rat}
    (delivered : after.contextBuffer =
      processor.contextBuffer.updateClosest point (phase.addDuration durationMs)) :
    ReachesStarted env phase durationMs time processor after := by
  intro earlier ambient startTime record index _ _ _ present nearest
  rcases Option.bind_eq_some_iff.mp present with ⟨context, listed, span⟩
  have found := selects.index_eq listed nearest
  have written : (processor.contextBuffer.buffer.modify index (phase.addDuration durationMs))[index]? =
      some (phase.addDuration durationMs context) := by
    rw [List.getElem?_modify_eq, listed]
    rfl
  rw [delivered, ContextBuffer.updateClosest, found]
  rw [written]
  change phase.span (phase.setSpan _ context) = _
  rw [Phase.span_setSpan, span]
  rfl

/-- In On-Demand mode a report reaches a context nearest to its time, and the span of its
phase, exactly if it does not lie past the middle between any two contexts. -/
theorem report_reaches_nearest_iff {env : Env} (onDemand : env.isManagedInstanceMode = false)
    (ambient : Ambient) (processor : Processor) (time : DateTime)
    (ahead : ClockAhead time processor.contextBuffer) {phase : Phase} {durationMs : Rat}
    {record : TelemetryRecord} (reports : phase.Reports durationMs record) :
    let after := deliver env ambient processor ⟨time, record⟩
    after.contextBuffer =
        processor.contextBuffer.updateClosest time.timestamp (phase.addDuration durationMs) ∧
      (SelectsNearest time.timestamp time processor.contextBuffer ∧
          ReachesStarted env phase durationMs time processor after <->
        NotPastMiddle time processor.contextBuffer) := by
  have delivered := deliver_report onDemand ambient processor time reports
  refine ⟨delivered, ?_⟩
  rw [<- selectsNearest_iff ahead]
  constructor
  · exact fun both => both.1
  · exact fun selects => ⟨selects, selects.reachesStarted env delivered⟩

/-- The invocation of a request, at a number of nanoseconds after the epoch. -/
def invokedAt (nanos : Int) (requestId : String) : Processor.Input :=
  ⟨{ Ambient.still with unixNanos := nanos }, .invokeEvent requestId⟩

/-- Two invocations, the first at three and the second at nine seconds after the epoch. -/
def twoInvocations : Processor :=
  [invokedAt 3000000000 "r1", invokedAt 9000000000 "r2"].foldl
    (Processor.step (Env.plain false)) Processor.new

theorem twoInvocations_buffer :
    Exists fun first => Exists fun second => twoInvocations.contextBuffer.buffer = [first, second] ∧
        first.createdAt = 3000000000 ∧ second.createdAt = 9000000000 :=
  ⟨_, _, rfl, rfl, rfl⟩

/-- The report of an init phase at four seconds belongs to the first of the two. -/
theorem report_reaches_nearest_first :
    ClockAhead 4000000000 twoInvocations.contextBuffer ∧
      NotPastMiddle 4000000000 twoInvocations.contextBuffer ∧
      SelectsNearest 4 4000000000 twoInvocations.contextBuffer := by
  rcases twoInvocations_buffer with ⟨first, second, buffer, early, late⟩
  have members : forall context, context ∈ twoInvocations.contextBuffer.buffer ->
      context.createdAt = 3000000000 ∨ context.createdAt = 9000000000 := by
    intro context member
    rw [buffer, List.mem_cons, List.mem_singleton] at member
    rcases member with rfl | rfl
    · exact Or.inl early
    · exact Or.inr late
  have ahead : ClockAhead 4000000000 twoInvocations.contextBuffer := by
    intro context member
    have seconds : DateTime.timestamp 4000000000 = 4 := rfl
    rcases members context member with created | created <;> omega
  have middle : NotPastMiddle 4000000000 twoInvocations.contextBuffer := by
    intro older younger olderIn youngerIn less
    change (2 * 4000000000 : Int) <= _
    rcases members older olderIn with first | first <;>
    rcases members younger youngerIn with second | second <;> omega
  have onDemand : (Env.plain false).isManagedInstanceMode = false := rfl
  have reached := (report_reaches_nearest_iff onDemand Ambient.still twoInvocations 4000000000
    ahead (.init .onDemand .init 100)).2
  exact ⟨ahead, middle, (reached.mpr middle).1⟩

/-- A report at nine seconds and a tenth is nearest to the second invocation and goes to the
first one. -/
theorem late_report_reaches_first :
    ¬ forall (env : Env), env.isManagedInstanceMode = false -> forall (inputs : List Processor.Input)
      (time : DateTime),
      SelectsNearest time.timestamp time
        (inputs.foldl (Processor.step env) Processor.new).contextBuffer := by
  intro always
  have selects : SelectsNearest 9 9100000000 twoInvocations.contextBuffer :=
    always (Env.plain false) rfl [invokedAt 3000000000 "r1", invokedAt 9000000000 "r2"] 9100000000
  rcases twoInvocations_buffer with ⟨first, second, buffer, early, late⟩
  have listed : twoInvocations.contextBuffer.buffer[1]? = some second := by
    rw [buffer]
    rfl
  have nearest : NearestAt 9100000000 twoInvocations.contextBuffer 1 := by
    intro context there position other elsewhere found
    rw [buffer] at there found
    cases there
    match position with
    | 0 =>
      cases found
      rw [early, late]
      decide
    | 1 => exact absurd rfl elsewhere
    | position + 2 => cases found
  exact absurd (selects.index_eq listed nearest) (by decide +kernel)

end Extension
end Bottlecap
