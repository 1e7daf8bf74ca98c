import Mathlib.Tactic.Linarith
import Bottlecap.Lifecycle.Identification

namespace Bottlecap
namespace Lifecycle

open Foundations

/-!
# Where a wrapped span ends

The span of a message wrapped in an SQS or SNS record should end where the span
of the record starts.  Its duration is written twice.  `get_wrapped_inferred_span`
subtracts the start of the wrapped span from that of the inferred span, which has
not been enriched yet and starts at zero.  `complete_inferred_spans` knows both
starts, but replaces the duration of an asynchronous record, and both kinds of
record are, only if it is still zero.
-/

/-- Milliseconds that are rounded to less than a nanosecond, or not a number. -/
def Double.AtEpoch : Double -> Prop
  | .finite millis => |mulF64 millis msToNs| < 1
  | .infinite _ => False
  | .nan => True

/-- A message that was found in a record. -/
inductive WrappedMessage where
  | sns (entity : SnsEntity)
  | eventBridge (event : EventBridgeEvent)

namespace WrappedMessage

def trigger (env : TriggerEnv) : WrappedMessage -> Trigger
  | sns entity => entity.wrapped.trigger env .null
  | eventBridge event => event.trigger env

def startTime (env : TriggerEnv) : WrappedMessage -> Int
  | sns entity => entity.wrapped.startTime
  | eventBridge event => event.startTime env

/-- The message carries the epoch as its time: an SNS message in its timestamp,
an EventBridge event in the start time of its carrier, or without one in its own
time. -/
def AtEpoch (env : TriggerEnv) : WrappedMessage -> Prop
  | sns entity => entity.timestamp = 0
  | eventBridge event =>
    match event.carriedStart env with
    | some millis => millis.AtEpoch
    | none => event.time = 0

end WrappedMessage

namespace TriggerEvent

/-- The message in the body of an SQS record, or in the message of an SNS one. -/
def wrappedMessage (env : TriggerEnv) : TriggerEvent -> Option WrappedMessage
  | sqsRecord record =>
    ((SnsEntity.fromStr env record.body).map .sns).or
      ((EventBridgeEvent.fromStr env record.body).map .eventBridge)
  | snsRecord record =>
    (record.sns.message.bind (EventBridgeEvent.fromStr env)).map .eventBridge
  | _ => none

/-- The record itself carries the epoch: an SQS record whose sending time is
zero or no number, or an SNS record with that timestamp. -/
def AtEpoch : TriggerEvent -> Prop
  | sqsRecord record => (parseI64 record.attributes.sentTimestamp).getD 0 = 0
  | snsRecord record => record.sns.timestamp = 0
  | _ => False

/-- The start of the inferred span of a record. -/
def startTime : TriggerEvent -> Int
  | sqsRecord record => record.startTime
  | snsRecord record => record.startTime
  | _ => 0

end TriggerEvent

/-! ## Start times -/

theorem castI64_eq_zero_iff (value : Rat) : castI64 value = 0 <-> |value| < 1 := by
  rw [castI64, abs_lt]
  by_cases nonnegative : 0 <= value
  · have floor : 0 <= value.floor := Rat.le_floor_iff.mpr (by exact_mod_cast nonnegative)
    have small : value.floor < 1 <-> value < 1 := by
      rw [Rat.floor_lt_iff]
      norm_num
    simp only [if_pos nonnegative]
    constructor
    · intro zero
      exact ⟨by linarith, small.mp (by omega)⟩
    · intro bounds
      have below := small.mpr bounds.2
      omega
  · have ceil : value.ceil <= 0 := Rat.ceil_le_iff.mpr (by exact_mod_cast le_of_not_ge nonnegative)
    have small : -1 < value.ceil <-> -1 < value := by
      rw [Rat.lt_ceil_iff]
      norm_num
    simp only [if_neg nonnegative]
    constructor
    · intro zero
      exact ⟨small.mp (by omega), by linarith⟩
    · intro bounds
      have above := small.mpr bounds.1
      omega

theorem castI64_millis_eq_zero_iff (millis : Int) {factor : Rat} (large : 1 <= factor) :
    castI64 (mulF64 (roundF64 millis) factor) = 0 <-> millis = 0 := by
  rw [castI64_eq_zero_iff]
  constructor
  · intro small
    by_contra away
    exact absurd small (not_lt_of_ge (one_le_abs_mulF64 away large))
  · intro zero
    rw [zero, mulF64, Int.cast_zero, roundF64_zero, zero_mul, roundF64_zero, abs_zero]
    exact one_pos

/-- An instant other than the epoch has a start time other than zero, even if
its nanoseconds do not fit and its milliseconds are taken. -/
theorem startTimeOfInstant_eq_zero_iff (time : Int) {factor : Rat} (large : 1 <= factor) :
    startTimeOfInstant time factor = 0 <-> time = 0 := by
  rw [startTimeOfInstant, timestampNanosOpt]
  by_cases fits : -(2 ^ 63) <= time ∧ time < 2 ^ 63
  · rw [if_pos fits]
    rfl
  · rw [if_neg fits]
    change castI64 (mulF64 (roundF64 (timestampMillis time)) factor) = 0 <-> time = 0
    rw [castI64_millis_eq_zero_iff _ large, timestampMillis]
    omega

theorem Double.millisToNanos_eq_zero_iff (millis : Double) :
    millis.millisToNanos = 0 <-> millis.AtEpoch := by
  cases millis with
  | finite value => exact castI64_eq_zero_iff (mulF64 value msToNs)
  | infinite negative =>
    cases negative with
    | false => exact iff_of_false (by decide) not_false
    | true => exact iff_of_false (by decide) not_false
  | nan => exact iff_of_true rfl trivial

namespace WrappedMessage

theorem startTime_eq_zero_iff (env : TriggerEnv) (message : WrappedMessage) :
    message.startTime env = 0 <-> message.AtEpoch env := by
  cases message with
  | sns entity => exact startTimeOfInstant_eq_zero_iff entity.timestamp (by decide)
  | eventBridge event =>
    simp only [startTime, AtEpoch, EventBridgeEvent.startTime]
    cases event.carriedStart env with
    | none => exact startTimeOfInstant_eq_zero_iff event.time (by decide)
    | some millis => exact millis.millisToNanos_eq_zero_iff

/-- A wrapped span is built from nothing: it starts at the time of its message. -/
theorem start_enrichSpan (env : TriggerEnv) (message : WrappedMessage) (span : Span) :
    ((message.trigger env).enrichSpan span).start = message.startTime env := by
  cases message with
  | sns => rfl
  | eventBridge => rfl

end WrappedMessage

namespace TriggerEvent

variable (env : TriggerEnv) (formats : TriggerFormats) (payload : Value)

/-- The trigger of the wrapped span is that of the wrapped message. -/
theorem wrappedTrigger_identified (event : TriggerEvent) :
    (event.identified env payload).wrappedTrigger (triggersOf env formats) =
      (event.wrappedMessage env).map (WrappedMessage.trigger env) := by
  cases event with
  | sqsRecord record =>
    simp only [identified, IdentifiedTrigger.wrappedTrigger, triggersOf, wrappedMessage]
    cases SnsEntity.fromStr env record.body with
    | some => rfl
    | none => cases EventBridgeEvent.fromStr env record.body <;> rfl
  | snsRecord record =>
    simp only [identified, wrappedMessage]
    cases record.sns.message with
    | none => rfl
    | some message =>
      simp only [IdentifiedTrigger.wrappedTrigger, triggersOf, Option.bind_some]
      cases EventBridgeEvent.fromStr env message <;> rfl
  | _ => rfl

/-- What the inferrer sees of a record that wraps a message. -/
structure Record (event : TriggerEvent) (trigger : Trigger) : Prop where
  outer : (event.identified env payload).getTriggerType = some trigger
  enriched : (event.identified env payload).shouldEnrichSpan = true
  shown : (event.identified env payload).shouldSkipInferredSpan = false
  start : forall span, (trigger.enrichSpan span).start = event.startTime
  isAsync : trigger.isAsync = true
  epoch : event.startTime = 0 <-> event.AtEpoch

theorem record_of_wrappedMessage {event : TriggerEvent} {message : WrappedMessage}
    (found : event.wrappedMessage env = some message) :
    Exists fun trigger => event.Record env payload trigger := by
  cases event with
  | sqsRecord record =>
    exact ⟨record.trigger env payload, rfl, rfl, rfl, fun _ => rfl, rfl,
      castI64_millis_eq_zero_iff _ (by decide)⟩
  | snsRecord record =>
    exact ⟨record.trigger env payload, rfl, rfl, rfl, fun _ => rfl, rfl,
      startTimeOfInstant_eq_zero_iff record.sns.timestamp (by decide)⟩
  | _ => cases found

end TriggerEvent

/-! ## The two spans -/

section Spans

variable (libraries : Libraries) (config : InferrerConfig)

@[simp] theorem applyBaseServiceOverride_start (trigger : Trigger) (span : Span) :
    (applyBaseServiceOverride libraries config trigger span).start = span.start := by
  rw [applyBaseServiceOverride]
  split
  · rfl
  · split
    · rfl
    · split <;> rfl

@[simp] theorem propagateAppsec_start (invocation target : Span) :
    (propagateAppsec config invocation target).start = target.start := by
  unfold propagateAppsec
  dsimp only
  split <;> split <;> rfl

@[simp] theorem propagateAppsec_duration (invocation target : Span) :
    (propagateAppsec config invocation target).duration = target.duration := by
  unfold propagateAppsec
  dsimp only
  split <;> split <;> rfl

/-- The wrapped span of a record, and what is left of its duration to the start
of the inferred span as it is then. -/
theorem getWrappedInferredSpan_of_wrappedTrigger (triggers : Triggers) (wrappedSpanId : UInt64)
    {identified : IdentifiedTrigger} {trigger : Trigger} (span : Span)
    (inner : identified.wrappedTrigger triggers = some trigger) :
    Exists fun wrapped => Exists fun extended =>
      getWrappedInferredSpan libraries triggers config wrappedSpanId identified span =
          (some wrapped, extended) ∧
        wrapped.start = (trigger.enrichSpan { spanId := wrappedSpanId }).start ∧
        wrapped.duration = span.start - wrapped.start := by
  rw [getWrappedInferredSpan]
  rw [inner]
  refine ⟨_, _, rfl, ?_, rfl⟩
  exact applyBaseServiceOverride_start libraries config trigger _

/-- A trigger that is enriched and shown: its span starts where it says. -/
theorem inferSpan_of_trigger (triggers : Triggers) (inferredSpanId wrappedSpanId : UInt64)
    {payload : Value} {trigger : Trigger} {wrapped : Option Span} {extended : Span}
    (outer : (triggers.fromValue payload).getTriggerType = some trigger)
    (enriched : (triggers.fromValue payload).shouldEnrichSpan = true)
    (shown : (triggers.fromValue payload).shouldSkipInferredSpan = false)
    (spans : getWrappedInferredSpan libraries triggers config wrappedSpanId
      (triggers.fromValue payload) { spanId := inferredSpanId } = (wrapped, extended)) :
    Exists fun inferred => (inferSpan libraries triggers config inferredSpanId wrappedSpanId
          payload).wrappedInferredSpan = wrapped ∧
        (inferSpan libraries triggers config inferredSpanId wrappedSpanId
          payload).inferredSpan = some inferred ∧
        (inferSpan libraries triggers config inferredSpanId wrappedSpanId
          payload).isAsyncSpan = trigger.isAsync ∧
        inferred.start = (trigger.enrichSpan extended).start := by
  have enrichedStart := applyBaseServiceOverride_start libraries config trigger
    (trigger.enrichSpan extended)
  rw [inferSpan]
  simp only [spans, outer, enriched, shown]
  cases trigger.getDdResourceKey with
  | none => exact ⟨_, trivial, rfl, trivial, enrichedStart⟩
  | some => exact ⟨_, trivial, rfl, trivial, enrichedStart⟩

theorem completeWrapped_start (isAsyncSpan : Bool) (invocation inferred wrapped : Span) :
    (completeWrapped config isAsyncSpan invocation inferred wrapped).start = wrapped.start := by
  rw [completeWrapped]
  split <;> simp only [propagateAppsec_start]

/-- For an asynchronous record only a duration of zero is replaced. -/
theorem completeWrapped_duration (invocation inferred wrapped : Span) :
    (completeWrapped config true invocation inferred wrapped).duration =
      if wrapped.duration = 0 then inferred.start - wrapped.start else wrapped.duration := by
  rw [completeWrapped]
  simp only [propagateAppsec_start, propagateAppsec_duration, Bool.true_and]
  by_cases zero : wrapped.duration = 0
  · rw [if_pos zero, if_neg (by rw [zero]; decide)]
  · rw [if_neg zero, if_pos (bne_iff_ne.mpr zero)]

end Spans

/-- The wrapped span ends where the inferred span starts. -/
def InferredSpanData.Adjoining (data : InferredSpanData) : Prop :=
  Exists fun wrapped => Exists fun inferred =>
    data.wrappedInferredSpan = some wrapped ∧ data.inferredSpan = some inferred ∧
      wrapped.start + wrapped.duration = inferred.start

/-- Both spans as `infer_span` leaves them: the duration of the wrapped one was
taken from an inferred span that still started at zero. -/
structure InferredSpanData.Wrapping (data : InferredSpanData) (wrapped inferred : Span) : Prop where
  wrappedSpan : data.wrappedInferredSpan = some wrapped
  inferredSpan : data.inferredSpan = some inferred
  isAsyncSpan : data.isAsyncSpan = true
  duration : wrapped.duration = 0 - wrapped.start

/-- Completing an asynchronous record: the wrapped span is completed against a
span that starts like the inferred one. -/
theorem completeInferredSpans_spans (config : InferrerConfig) (invocation : Span)
    {data : InferredSpanData} {wrapped inferred : Span} (spans : data.Wrapping wrapped inferred) :
    Exists fun base => Exists fun completed =>
      (completeInferredSpans config invocation data).wrappedInferredSpan =
          some (completeWrapped config true invocation base wrapped) ∧
        (completeInferredSpans config invocation data).inferredSpan = some completed ∧
        base.start = inferred.start ∧ completed.start = inferred.start := by
  rw [completeInferredSpans]
  rw [spans.inferredSpan, spans.wrappedSpan, spans.isAsyncSpan]
  refine ⟨_, _, rfl, rfl, ?_, ?_⟩
  · exact propagateAppsec_start config invocation _
  · exact propagateAppsec_start config invocation _

theorem completeInferredSpans_adjoining_iff (config : InferrerConfig) (invocation : Span)
    {data : InferredSpanData} {wrapped inferred : Span} (spans : data.Wrapping wrapped inferred) :
    (completeInferredSpans config invocation data).Adjoining <->
      wrapped.start = 0 ∨ inferred.start = 0 := by
  obtain ⟨base, completed, wrappedEq, inferredEq, baseStart, completedStart⟩ :=
    completeInferredSpans_spans config invocation spans
  have law : (completeInferredSpans config invocation data).Adjoining <->
      wrapped.start + (completeWrapped config true invocation base wrapped).duration =
        inferred.start := by
    rw [<- completedStart, <- completeWrapped_start config true invocation base wrapped]
    constructor
    · rintro ⟨_, _, wrappedFound, inferredFound, ends⟩
      rw [wrappedEq] at wrappedFound
      rw [inferredEq] at inferredFound
      cases wrappedFound
      cases inferredFound
      exact ends
    · intro ends
      exact ⟨_, _, wrappedEq, inferredEq, ends⟩
  rw [law, completeWrapped_duration, spans.duration]
  -- a start of zero lets the completion write the difference, any other one stays
  by_cases zero : wrapped.start = 0
  · rw [if_pos (by omega)]
    omega
  · rw [if_neg (by omega)]
    omega

section Inferring

variable (env : TriggerEnv) (formats : TriggerFormats) (config : InferrerConfig)
  (inferredSpanId wrappedSpanId : UInt64) (payload : Value)

/-- `infer_span` on a record with a message in it. -/
theorem inferSpan_wrapping {message : WrappedMessage}
    (found : (TriggerEvent.fromValue env formats payload).wrappedMessage env = some message) :
    Exists fun wrapped => Exists fun inferred =>
      (inferSpan env.libraries (triggersOf env formats) config inferredSpanId wrappedSpanId
          payload).Wrapping wrapped inferred ∧
        wrapped.start = message.startTime env ∧
        inferred.start = (TriggerEvent.fromValue env formats payload).startTime := by
  obtain ⟨trigger, record⟩ := TriggerEvent.record_of_wrappedMessage env payload found
  have inner := TriggerEvent.wrappedTrigger_identified env formats payload
    (TriggerEvent.fromValue env formats payload)
  rw [found] at inner
  obtain ⟨wrapped, extended, spans, wrappedStart, duration⟩ :=
    getWrappedInferredSpan_of_wrappedTrigger env.libraries config (triggersOf env formats)
      wrappedSpanId { spanId := inferredSpanId } inner
  obtain ⟨inferred, wrappedEq, inferredEq, isAsync, inferredStart⟩ :=
    inferSpan_of_trigger env.libraries config (triggersOf env formats) inferredSpanId wrappedSpanId
      record.outer record.enriched record.shown spans
  refine ⟨wrapped, inferred, ⟨wrappedEq, inferredEq, isAsync.trans record.isAsync, duration⟩,
    ?_, ?_⟩
  · exact wrappedStart.trans (WrappedMessage.start_enrichSpan env message _)
  · exact inferredStart.trans (record.start extended)

/-- After inferring and completing, the wrapped span of an SNS message or an
EventBridge event in an SQS body, and of an EventBridge event in an SNS message,
ends where the inferred span starts exactly if the message or the record carries
the epoch as its time. -/
theorem wrapped_span_adjoins_iff (invocation : Span) (message : WrappedMessage)
    (found : (TriggerEvent.fromValue env formats payload).wrappedMessage env = some message) :
    (completeInferredSpans config invocation
        (inferSpan env.libraries (triggersOf env formats) config inferredSpanId wrappedSpanId
          payload)).Adjoining <->
      message.AtEpoch env ∨ (TriggerEvent.fromValue env formats payload).AtEpoch := by
  obtain ⟨wrapped, inferred, wrapping, wrappedStart, inferredStart⟩ :=
    inferSpan_wrapping env formats config inferredSpanId wrappedSpanId payload found
  obtain ⟨trigger, record⟩ := TriggerEvent.record_of_wrappedMessage env payload found
  rw [completeInferredSpans_adjoining_iff config invocation wrapping, wrappedStart, inferredStart,
    message.startTime_eq_zero_iff, record.epoch]

end Inferring

/-! ## An SNS message in an SQS body -/

/-- The JSON text of an SNS message with a timestamp. -/
def snsText (timestamp : String) : String :=
  "\x7b\"Type\":\"Notification\",\"MessageId\":\"m1\",\"TopicArn\":\"arn:aws:sns:us-east-1:1:t\"," ++
    "\"MessageAttributes\":\x7b\x7d,\"Timestamp\":\"" ++ timestamp ++ "\"\x7d"

/-- The value of that text. -/
def snsValue (timestamp : String) : Value :=
  .object [("Type", .string "Notification"), ("MessageId", .string "m1"),
    ("TopicArn", .string "arn:aws:sns:us-east-1:1:t"), ("MessageAttributes", .object []),
    ("Timestamp", .string timestamp)]

/-- An SQS payload whose body is that text. -/
def sqsPayload (timestamp : String) : Value :=
  .object [("Records", .array [.object [("messageId", .string "m2"),
    ("receiptHandle", .string "h"),
    ("attributes", .object [
      ("ApproximateFirstReceiveTimestamp", .string "1700000000600"),
      ("ApproximateReceiveCount", .string "1"),
      ("SentTimestamp", .string "1700000000500"), ("SenderId", .string "s")]),
    ("messageAttributes", .object []), ("md5OfBody", .string ""),
    ("eventSource", .string "aws:sqs"),
    ("eventSourceARN", .string "arn:aws:sqs:us-east-1:1:q"),
    ("awsRegion", .string "us-east-1"), ("body", .string (snsText timestamp))]])]

/-- The plain environment, where the text above and two dates are read. -/
def TriggerEnv.reading (timestamp : String) : TriggerEnv :=
  { TriggerEnv.plain with
    parseStruct := fun text => if text = snsText timestamp then some (snsValue timestamp) else none
    parseDateTime := fun text =>
      if text = "2023-11-14T22:13:20Z" then some 1700000000000000000
      else if text = "1970-01-01T00:00:00Z" then some 0
      else none }

/-- The message read from the body. -/
def snsEntityAt (time : Int) : SnsEntity :=
  { messageId := "m1", type := "Notification", topicArn := "arn:aws:sns:us-east-1:1:t",
    messageAttributes := ∅, timestamp := time, subject := none, message := none }

theorem wrapped_span_adjoins_epoch :
    let env := TriggerEnv.reading "1970-01-01T00:00:00Z"
    let payload := sqsPayload "1970-01-01T00:00:00Z"
    (TriggerEvent.fromValue env TriggerFormats.plain payload).wrappedMessage env =
        some (.sns (snsEntityAt 0)) ∧
      (completeInferredSpans ⟨none, false, false⟩ {}
        (inferSpan env.libraries (triggersOf env TriggerFormats.plain) ⟨none, false, false⟩ 1 2
          payload)).Adjoining :=
  ⟨rfl, (wrapped_span_adjoins_iff _ _ _ _ _ _ _ (.sns (snsEntityAt 0)) rfl).mpr
    (Or.inl rfl)⟩

/-- A message sent to the topic half a second before it reached the queue: its
span ends at the epoch, and the inferred span starts in 2023. -/
theorem wrapped_span_ends_at_epoch :
    ¬ forall (env : TriggerEnv) (formats : TriggerFormats) (config : InferrerConfig)
        (inferredSpanId wrappedSpanId : UInt64) (payload : Value) (invocation : Span)
        (message : WrappedMessage),
      (TriggerEvent.fromValue env formats payload).wrappedMessage env = some message ->
        (completeInferredSpans config invocation
          (inferSpan env.libraries (triggersOf env formats) config inferredSpanId wrappedSpanId
            payload)).Adjoining := by
  intro always
  have found : (TriggerEvent.fromValue (TriggerEnv.reading "2023-11-14T22:13:20Z")
      TriggerFormats.plain (sqsPayload "2023-11-14T22:13:20Z")).wrappedMessage
        (TriggerEnv.reading "2023-11-14T22:13:20Z") =
      some (.sns (snsEntityAt 1700000000000000000)) := rfl
  have adjoins := always _ _ ⟨none, false, false⟩ 1 2 _ {} _ found
  obtain ⟨wrapped, inferred, wrapping, wrappedStart, inferredStart⟩ :=
    inferSpan_wrapping _ _ ⟨none, false, false⟩ 1 2 _ found
  have zero := (completeInferredSpans_adjoining_iff ⟨none, false, false⟩ {} wrapping).mp adjoins
  rw [wrappedStart, inferredStart] at zero
  rcases zero with wrappedZero | inferredZero
  · have published : (1700000000000000000 : Int) = 0 := wrappedZero
    omega
  · have sent : (1700000000500 : Int) = 0 := (castI64_millis_eq_zero_iff _ (by decide)).mp inferredZero
    omega

end Lifecycle
end Bottlecap
