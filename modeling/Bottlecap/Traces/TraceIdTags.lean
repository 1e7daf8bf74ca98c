import Bottlecap.Lifecycle.Identification
import Bottlecap.Otlp.Processor

namespace Bottlecap
namespace Traces

open Foundations
open Lifecycle (StepFunctionEvent TriggerEnv Span higherOrderTraceIdBitsKey)
open Otlp

/-!
# The higher half of a trace id as a tag

Spans carry the lower 64 bits of their trace id, and the tag `_dd.p.tid` carries
the higher ones: sixteen hexadecimal digits, as `preserve_high_order_trace_id_bits`
writes them.  Two more places write the tag.  The conversion of OpenTelemetry
spans writes the number in decimal, and the context of a Step Functions execution
has it in hexadecimal without leading zeros.

The tag of a converted span is followed through the steps of the conversion, which
leave it alone unless the client sent an attribute with its name.
-/

/-! ## The tag in the conversion of OpenTelemetry spans -/

/-- The tag of a span. -/
def tid (span : Span) : Option String := span.metaTags.lookup higherOrderTraceIdBitsKey

section Steps

variable (env : OtlpEnv) (otelSpan : OtelSpan) (otelRes : OtelResource)
  (lib : OtelInstrumentationScope) (span : Span)

theorem tid_setMeta {key : String} (other : key ≠ higherOrderTraceIdBitsKey) (value : String) :
    tid (setMeta key value span) = tid span :=
  AList.lookup_insert_ne other.symm

/-- A step that is taken in some cases. -/
theorem tid_ite {condition : Prop} [Decidable condition] {first second span : Span}
    (left : tid first = tid span) (right : tid second = tid span) :
    tid (if condition then first else second) = tid span := by
  split
  · exact left
  · exact right

theorem tid_setMetaIfSome {key : String} (other : key ≠ higherOrderTraceIdBitsKey)
    (value : String) : tid (setMetaIfSome key value span) = tid span := by
  exact tid_ite rfl (tid_setMeta span other value)

theorem tid_withMetrics (metrics : AList (fun _ : String => Rat)) :
    tid { span with metrics := metrics } = tid span :=
  rfl

theorem tid_foldl {Item : Type} {step : Span -> Item -> Span} {items : List Item}
    (each : forall item, item ∈ items -> forall span, tid (step span item) = tid span) :
    tid (items.foldl step span) = tid span := by
  induction items generalizing span with
  | nil => rfl
  | cons first _ ih =>
    rw [List.foldl_cons, ih _ (fun item member => each item (List.mem_cons_of_mem _ member))]
    exact each first List.mem_cons_self span

theorem tid_setError : tid (setError env otelSpan span) = tid span := by
  rw [setError]
  split
  · rfl
  · split <;> rfl

theorem tid_setMissingFields :
    tid (setMissingFields env otelSpan otelRes lib span) = tid span := by
  rw [setMissingFields]
  split
  · rfl
  · dsimp only
    -- the environment is set last, after the status code and the type
    refine tid_ite ?_ ((tid_setMetaIfSome _ (by decide) _).trans ?_)
    all_goals
      refine tid_ite ((tid_withMetrics _ _).trans ?_) ?_
      all_goals exact tid_ite rfl (tid_setMeta _ (by decide) _)

theorem tid_setTopLevel : tid (setTopLevel env otelSpan span) = tid span := by
  rw [setTopLevel]
  split <;> rfl

theorem tid_setMeasured : tid (setMeasured env otelSpan span) = tid span := by
  rw [setMeasured]
  split <;> rfl

theorem tid_setSemanticKeys : tid (setSemanticKeys env otelSpan span) = tid span := by
  apply tid_foldl
  intro keys member span
  have other : forall keys, keys ∈ ddSemanticKeysToMetaKeys ->
      keys.2 ≠ higherOrderTraceIdBitsKey := by
    decide
  exact tid_setMetaIfSome span (other keys member) _

theorem tid_setOtlpMeta {key : String} (other : key ≠ higherOrderTraceIdBitsKey) (value : String) :
    tid (setOtlpMeta key value span) = tid span := by
  rw [setOtlpMeta]
  split_ifs <;> first | rfl | exact tid_setMeta span other value

theorem tid_setOtlpMetaMappings {key : String} (other : key ≠ higherOrderTraceIdBitsKey)
    (ignoreMissing : Bool) (value : String) :
    tid (setOtlpMetaWithSemanticConventionMappings ignoreMissing key value span) = tid span := by
  rw [setOtlpMetaWithSemanticConventionMappings]
  split_ifs <;> first | rfl | exact tid_setOtlpMeta span other value

theorem tid_setOtlpMetricsMappings (ignoreMissing : Bool) (key : String) (value : Rat) :
    tid (setOtlpMetricsWithSemanticConventionMappings ignoreMissing key value span) = tid span := by
  rw [setOtlpMetricsWithSemanticConventionMappings]
  split_ifs <;> rfl

theorem tid_setResourceAttribute {item : KeyValue}
    (other : item.key ≠ higherOrderTraceIdBitsKey) :
    tid (setResourceAttribute env span item) = tid span := by
  rw [setResourceAttribute]
  split
  · rfl
  · exact tid_ite rfl (tid_setOtlpMetaMappings span other _ _)

theorem tid_setScopeAttribute {item : KeyValue} (other : item.key ≠ higherOrderTraceIdBitsKey) :
    tid (setScopeAttribute env span item) = tid span := by
  rw [setScopeAttribute]
  split
  · rfl
  · exact tid_setMetaIfSome span other _

theorem tid_setTraceIdAndVersion :
    tid (setTraceIdAndVersion env otelSpan otelRes span) = tid span := by
  have traced : tid (setMeta "otel.trace_id" (hexEncode otelSpan.traceId) span) = tid span :=
    tid_setMeta span (by decide) _
  exact tid_ite ((tid_setMetaIfSome _ (by decide) _).trans traced) traced

theorem tid_setSpanEventsHasException :
    tid (setSpanEventsHasException otelSpan span) = tid span := by
  exact tid_ite (tid_setMeta span (by decide) _) rfl

theorem tid_setEventsAndLinks : tid (setEventsAndLinks env otelSpan span) = tid span := by
  have exception := tid_setSpanEventsHasException otelSpan span
  unfold setEventsAndLinks
  refine tid_ite ?_ ((tid_setMeta _ (by decide) _).trans ?_)
  all_goals exact tid_ite exception ((tid_setMeta _ (by decide) _).trans exception)

theorem tid_setSpanAttribute {item : KeyValue} (other : item.key ≠ higherOrderTraceIdBitsKey) :
    tid (setSpanAttribute env span item) = tid span := by
  rw [setSpanAttribute]
  split
  · rfl
  · split
    · rfl
    · exact tid_setOtlpMetricsMappings span _ _ _
    · exact tid_setOtlpMetricsMappings span _ _ _
    · exact tid_setOtlpMetaMappings span other _ _

theorem tid_setStatus : tid (setStatus otelSpan span) = tid span := by
  rw [setStatus]
  split
  · rw [tid_setMeta _ (by decide), tid_setMeta _ (by decide)]
  · rfl

theorem tid_setErrorFromEvent (libraries : OtlpLibraries) (event : OtelEvent) :
    tid (setErrorFromEvent libraries span event) = tid span := by
  rw [setErrorFromEvent]
  split
  · rfl
  · dsimp only
    rw [tid_setMetaIfSome _ (by decide), tid_setMetaIfSome _ (by decide),
      tid_setMetaIfSome _ (by decide)]

theorem tid_setSpanErrorFromOtelSpan (libraries : OtlpLibraries) :
    tid (setSpanErrorFromOtelSpan libraries otelSpan span) = tid span := by
  have events : tid (otelSpan.events.foldl (setErrorFromEvent libraries) span) = tid span :=
    tid_foldl span (fun event _ span => tid_setErrorFromEvent span libraries event)
  rw [setSpanErrorFromOtelSpan]
  split
  · rfl
  · dsimp only
    split
    · exact events
    · split
      · rw [tid_setMeta _ (by decide), events]
      · split
        · rw [tid_setMeta _ (by decide), events]
        · exact events

theorem tid_setScopeAndStatus : tid (setScopeAndStatus env otelSpan lib span) = tid span := by
  have described : tid (setStatus otelSpan (setMetaIfSome "otel.scope.version" lib.version
      (setMetaIfSome "otel.scope.name" lib.name
        (setMetaIfSome "w3c.trace_state" otelSpan.traceState span)))) = tid span := by
    rw [tid_setStatus, tid_setMetaIfSome _ (by decide), tid_setMetaIfSome _ (by decide),
      tid_setMetaIfSome _ (by decide)]
  exact tid_ite ((tid_setSpanErrorFromOtelSpan _ _ _).trans described) described

/-- No attribute of the resource, the scope or the span has the name of the tag. -/
structure NoTidAttribute : Prop where
  resource : forall item, item ∈ otelRes.attributes -> item.key ≠ higherOrderTraceIdBitsKey
  scope : forall item, item ∈ lib.attributes -> item.key ≠ higherOrderTraceIdBitsKey
  span : forall item, item ∈ otelSpan.attributes -> item.key ≠ higherOrderTraceIdBitsKey

theorem tid_completeDdSpan (unnamed : NoTidAttribute otelSpan otelRes lib) :
    tid (completeDdSpan env otelSpan otelRes lib span) = tid span := by
  unfold completeDdSpan
  rw [tid_setScopeAndStatus,
    tid_foldl _ (fun item member span => tid_setSpanAttribute env span (unnamed.span item member)),
    tid_setEventsAndLinks, tid_setTraceIdAndVersion,
    tid_foldl _ (fun item member span => tid_setScopeAttribute env span (unnamed.scope item member)),
    tid_foldl _
      (fun item member span => tid_setResourceAttribute env span (unnamed.resource item member)),
    tid_setSemanticKeys, tid_setMeasured, tid_setTopLevel, tid_setMissingFields, setKind,
    tid_setMetaIfSome _ (by decide), tid_setError]

end Steps

/-- The sent tag is the higher half of the trace id in decimal. -/
theorem tid_otelSpanToDdSpan (env : OtlpEnv) {otelSpan : OtelSpan} {otelRes : OtelResource}
    {lib : OtelInstrumentationScope} {span : Span} (unnamed : NoTidAttribute otelSpan otelRes lib)
    (converted : otelSpanToDdSpan env otelSpan otelRes lib = Except.ok span) :
    tid span = some (toString otelSpan.higherTraceId.toNat) := by
  unfold otelSpanToDdSpan at converted
  rw [otelTraceIdToDdId_eq, subU64_eq] at converted
  split at converted
  · split at converted
    · obtain rfl := Except.ok.inj converted
      rw [tid_completeDdSpan env _ _ _ _ unnamed]
      exact AList.lookup_insert _
    · cases converted
  · cases converted

/-! ## The places that write the tag -/

/-- A converted span of a client that does not send the tag itself, or the
context of an execution whose trace id is generated. -/
inductive TidWriter where
  | otlp (env : OtlpEnv) (placed : PlacedSpan) (sixteen : placed.otelSpan.traceId.length = 16)
      (unnamed : NoTidAttribute placed.otelSpan placed.otelRes placed.lib)
  | stepFunctions (env : TriggerEnv) (event : StepFunctionEvent)
      (generated : event.traceId = none ∨ event.traceTags = none)

namespace TidWriter

/-- The tag with the lower half of the trace id next to it, unless the conversion
panics. -/
def written : TidWriter -> Option (String × UInt64)
  | otlp env placed _ _ => do
      let span <- (otelSpanToDdSpan env placed.otelSpan placed.otelRes placed.lib).toOption
      let text <- tid span
      some (text, span.traceId)
  | stepFunctions env event _ => do
      let text <- (event.getSpanContext env).tags.lookup higherOrderTraceIdBitsKey
      some (text, (event.getSpanContext env).lowTraceId)

/-- The trace id with all its 128 bits. -/
def traceId : TidWriter -> Nat
  | otlp _ placed _ _ => bytesToNat placed.otelSpan.traceId
  | stepFunctions env event _ =>
    (StepFunctionEvent.generateTraceId env event.executionArn).2.toNat * 2 ^ 64 +
      (StepFunctionEvent.generateTraceId env event.executionArn).1.toNat

end TidWriter

/-- Sixteen lower-case hexadecimal digits that, read as a number and put before
the lower half, give a trace id. -/
structure Restores (text : String) (lower : UInt64) (traceId : Nat) : Prop where
  width : text.toList.length = 16
  digits : forall char, char ∈ text.toList -> isLowerHex char = true
  whole : (parseHexU64 text).map (fun higher => higher.toNat * 2 ^ 64 + lower.toNat) = some traceId

namespace TidWriter

/-- The digest of the execution does not begin with four zero bits, its highest
bit apart, which is not used.  Nothing makes the tag of a converted span right. -/
def Wide : TidWriter -> Prop
  | otlp _ _ _ _ => False
  | stepFunctions env event _ => 16 <= (env.sha256 event.executionArn)[0].toNat % 128

end TidWriter

/-- The halves of a trace id of sixteen bytes. -/
theorem bytesToNat_traceId {otelSpan : OtelSpan} (sixteen : otelSpan.traceId.length = 16) :
    bytesToNat otelSpan.traceId =
      otelSpan.higherTraceId.toNat * 2 ^ 64 + bytesToNat (otelSpan.traceId.drop 8) := by
  have eight : (otelSpan.traceId.drop 8).length = 8 := by
    rw [List.length_drop, sixteen]
  calc bytesToNat otelSpan.traceId
      = bytesToNat (otelSpan.traceId.take 8 ++ otelSpan.traceId.drop 8) := by
        rw [List.take_append_drop]
    _ = bytesToNat (otelSpan.traceId.take 8) * 256 ^ 8 + bytesToNat (otelSpan.traceId.drop 8) := by
        rw [bytesToNat_append, eight]
    _ = _ := by
        rw [OtelSpan.higherTraceId, toNat_u64FromBeBytes _ (List.length_take_le 8 _)]
        rfl

theorem not_restores_decimal {otelSpan : OtelSpan} (sixteen : otelSpan.traceId.length = 16)
    (lower : UInt64) :
    Not (Restores (toString otelSpan.higherTraceId.toNat) lower (bytesToNat otelSpan.traceId)) := by
  rintro ⟨width, digits, whole⟩
  rw [toList_toString] at width
  have wide : 10 ^ 15 <= otelSpan.higherTraceId.toNat ∧ otelSpan.higherTraceId.toNat < 10 ^ 16 :=
    (length_toDigits_eq_iff (by decide) (by decide)).mp width
  obtain ⟨higher, read, restored⟩ := Option.map_eq_some_iff.mp whole
  have differs := parseHexU64_decimal_ne (by omega) read
  have rest : bytesToNat (otelSpan.traceId.drop 8) < 256 ^ (otelSpan.traceId.drop 8).length :=
    bytesToNat_lt _
  rw [List.length_drop, sixteen] at rest
  rw [bytesToNat_traceId sixteen] at restored
  have bound : lower.toNat < 2 ^ 64 := lower.toNat_lt
  omega

theorem written_stepFunctions (env : TriggerEnv) {event : StepFunctionEvent}
    (generated : event.traceId = none ∨ event.traceTags = none) :
    (TidWriter.stepFunctions env event generated).written =
      some (StepFunctionEvent.lowerHex (StepFunctionEvent.generateTraceId env event.executionArn).2,
        (StepFunctionEvent.generateTraceId env event.executionArn).1) := by
  have lower : forall id : UInt64, UInt64.ofBitVec ((id.toBitVec.setWidth 128).truncate 64) = id := by
    intro id
    rw [BitVec.truncate_eq_setWidth, BitVec.setWidth_setWidth_of_le _ (by decide), BitVec.setWidth_eq]
  simp only [TidWriter.written, StepFunctionEvent.getSpanContext, Lifecycle.SpanContext.lowTraceId,
    StepFunctionEvent.traceIdAndTags_of_generated env generated, lower]
  rfl

theorem restores_lowerHex {higher : UInt64} (wide : 16 ^ 15 <= higher.toNat) (lower : UInt64) :
    Restores (StepFunctionEvent.lowerHex higher) lower (higher.toNat * 2 ^ 64 + lower.toNat) := by
  have bound : higher.toNat < 2 ^ 64 := higher.toNat_lt
  refine ⟨?_, ?_, ?_⟩
  · rw [StepFunctionEvent.lowerHex, String.toList_ofList]
    exact (length_toDigits_eq_iff (by decide) (by decide)).mpr ⟨wide, bound⟩
  · rw [StepFunctionEvent.lowerHex, String.toList_ofList]
    exact isLowerHex_of_mem_toDigits higher.toNat
  · rw [StepFunctionEvent.lowerHex, parseHexU64_toDigits bound, UInt64.ofNat_toNat]
    rfl

theorem digest_cons (digest : Vector UInt8 32) :
    Exists fun first => Exists fun rest =>
      digest.toList = first :: rest ∧ rest.length = 31 ∧ digest[0] = first := by
  have length := digest.length_toList
  obtain ⟨first, rest, cons⟩ := List.exists_cons_of_length_eq_add_one length
  refine ⟨first, rest, cons, ?_, ?_⟩
  · rw [cons, List.length_cons] at length
    omega
  · calc digest[0] = digest.toList[0] := (Vector.getElem_toList _).symm
      _ = first := List.getElem_of_eq cons _

/-- The higher half has sixteen digits exactly if the digest is wide. -/
theorem generated_wide_iff (env : TriggerEnv) (executionArn : String) :
    16 ^ 15 <= (StepFunctionEvent.generateTraceId env executionArn).2.toNat <->
      16 <= (env.sha256 executionArn)[0].toNat % 128 := by
  obtain ⟨first, rest, digest, length, first_eq⟩ := digest_cons (env.sha256 executionArn)
  have seven : (rest.take 7).length = 7 := by
    rw [List.length_take, length]
    rfl
  have higher : (StepFunctionEvent.generateTraceId env executionArn).2.toNat =
      max 1 ((first.toNat * 256 ^ 7 + bytesToNat (rest.take 7)) % 2 ^ 63) := by
    change (StepFunctionEvent.getPositiveU64 ((env.sha256 executionArn).toList.take 8)).toNat = _
    rw [digest, List.take_succ_cons, StepFunctionEvent.toNat_getPositiveU64 _
      (by rw [List.length_cons, seven]), bytesToNat_cons, seven]
  have below := bytesToNat_lt (rest.take 7)
  rw [seven] at below
  rw [first_eq]
  omega

/-- The tag is sixteen hexadecimal digits and restores the trace id exactly if the
trace id is generated for an execution with a wide digest. -/
theorem trace_id_tag_restores_iff (writer : TidWriter) :
    (Exists fun text => Exists fun lower =>
        writer.written = some (text, lower) ∧ Restores text lower writer.traceId) <->
      writer.Wide := by
  cases writer with
  | otlp env placed sixteen unnamed =>
    refine iff_of_false ?_ not_false
    rintro ⟨text, lower, written, restores⟩
    obtain ⟨span, returned, rest⟩ := Option.bind_eq_some_iff.mp written
    obtain ⟨tag, tagged, pair⟩ := Option.bind_eq_some_iff.mp rest
    cases pair
    cases converted : otelSpanToDdSpan env placed.otelSpan placed.otelRes placed.lib with
    | error =>
      rw [converted] at returned
      cases returned
    | ok =>
      rw [converted] at returned
      cases returned
      rw [tid_otelSpanToDdSpan env unnamed converted] at tagged
      cases tagged
      exact not_restores_decimal sixteen _ restores
  | stepFunctions env event =>
    rw [written_stepFunctions]
    constructor
    · rintro ⟨text, lower, written, restores⟩
      cases written
      have width := restores.width
      rw [StepFunctionEvent.lowerHex, String.toList_ofList] at width
      exact (generated_wide_iff env event.executionArn).mp
        ((length_toDigits_eq_iff (by decide) (by decide)).mp width).1
    · intro wide
      have bounds := (generated_wide_iff env event.executionArn).mpr wide
      exact ⟨_, _, rfl, restores_lowerHex bounds _⟩

/-- A client span whose trace id has every bit set is tagged with twenty decimal
digits, and an execution whose digest is zero with one digit. -/
theorem trace_id_tag_decimal_or_narrow :
    let client : TidWriter :=
      .otlp (OtlpEnv.plain false)
        ⟨⟨[]⟩, ⟨"", "", []⟩,
          { traceId := List.replicate 16 255, spanId := List.replicate 8 1, startTimeUnixNano := 1,
            endTimeUnixNano := 2 }⟩
        rfl ⟨nofun, nofun, nofun⟩
    let execution : TidWriter :=
      .stepFunctions TriggerEnv.plain
        { execution := ⟨"arn", 0⟩, state := ⟨"state", "", 0⟩, stateMachine := none, traceId := none,
          traceTags := none, rootExecutionId := none, serverlessVersion := none }
        (Or.inl rfl)
    client.written.map Prod.fst = some "18446744073709551615" ∧
      execution.written.map Prod.fst = some "1" := by
  decide +kernel

end Traces
end Bottlecap
