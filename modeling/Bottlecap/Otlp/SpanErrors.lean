import Mathlib.Data.List.Induction
import Bottlecap.Foundations.Lists
import Bottlecap.Otlp.Processor

namespace Bottlecap
namespace Otlp

open Foundations

/-!
# The error of a converted span

Three parts of the conversion are concerned with the error of a span: the flag, which
is set first, the attributes with a Datadog meaning, and at the end the exception
events with the status.  Every other step keeps the flag, and keeps the message if no
attribute is itself called `error.msg`.

What the two should be is stated here apart from the conversion: the flag follows the
attribute `datadog.error` or the status, and the message is that of the last exception
that has one, or the description of the status.
-/

/-- A step keeps the flag of the error, and under the condition its message. -/
structure KeepsError (silent : Prop) (before after : Lifecycle.Span) : Prop where
  flag : after.error = before.error
  message : silent -> after.metaTags.lookup "error.msg" = before.metaTags.lookup "error.msg"

section Steps

variable {silent : Prop}

theorem KeepsError.refl (span : Lifecycle.Span) : KeepsError silent span span :=
  ⟨rfl, fun _ => rfl⟩

theorem KeepsError.trans {first second third : Lifecycle.Span}
    (one : KeepsError silent first second) (two : KeepsError silent second third) :
    KeepsError silent first third :=
  ⟨two.flag.trans one.flag, fun holds => (two.message holds).trans (one.message holds)⟩

theorem KeepsError.ite {condition : Prop} [Decidable condition] {span one two : Lifecycle.Span}
    (yes : KeepsError silent span one) (no : KeepsError silent span two) :
    KeepsError silent span (if condition then one else two) := by
  split
  · exact yes
  · exact no

/-! ## Single tags -/

theorem keepsError_setMeta {key : String} (other : silent -> key ≠ "error.msg") (value : String)
    (span : Lifecycle.Span) : KeepsError silent span (setMeta key value span) := by
  refine ⟨rfl, ?_⟩
  intro holds
  exact AList.lookup_insert_ne (Ne.symm (other holds))

theorem keepsError_setMetaIfSome {key value : String}
    (unset : silent -> key = "error.msg" -> value.isEmpty = true) (span : Lifecycle.Span) :
    KeepsError silent span (setMetaIfSome key value span) := by
  unfold setMetaIfSome
  split
  · exact KeepsError.refl span
  · rename_i present
    exact keepsError_setMeta (fun holds same => present (unset holds same)) value span

theorem keepsError_setOtlpMeta {key : String} (other : silent -> key ≠ "error.msg")
    (value : String) (span : Lifecycle.Span) :
    KeepsError silent span (setOtlpMeta key value span) := by
  unfold setOtlpMeta
  split_ifs
  · exact ⟨rfl, fun _ => rfl⟩
  · exact ⟨rfl, fun _ => rfl⟩
  · exact ⟨rfl, fun _ => rfl⟩
  · exact ⟨rfl, fun _ => rfl⟩
  · exact ⟨rfl, fun _ => rfl⟩
  · exact ⟨rfl, fun _ => rfl⟩
  · exact KeepsError.refl span
  · exact keepsError_setMeta other value span

theorem keepsError_setOtlpMetaMapped {key : String} (other : silent -> key ≠ "error.msg")
    (ignoreMissing : Bool) (value : String) (span : Lifecycle.Span) :
    KeepsError silent span
      (setOtlpMetaWithSemanticConventionMappings ignoreMissing key value span) := by
  exact (KeepsError.refl span).ite ((KeepsError.refl span).ite
    (keepsError_setOtlpMeta other value span))

theorem keepsError_setOtlpMetricsMapped (ignoreMissing : Bool) (key : String) (value : Rat)
    (span : Lifecycle.Span) :
    KeepsError silent span
      (setOtlpMetricsWithSemanticConventionMappings ignoreMissing key value span) := by
  exact (KeepsError.refl span).ite ((KeepsError.refl span).ite ⟨rfl, fun _ => rfl⟩)

/-- A loop keeps what each of its rounds keeps. -/
theorem keepsError_foldl {Item : Type} (items : List Item)
    (step : Lifecycle.Span -> Item -> Lifecycle.Span)
    (keeps : forall span item, item ∈ items -> KeepsError silent span (step span item))
    (span : Lifecycle.Span) : KeepsError silent span (items.foldl step span) :=
  foldl_invariant (KeepsError silent span) step items
    (fun current item member kept => kept.trans (keeps current item member)) span
    (KeepsError.refl span)

/-! ## The steps that are not about errors -/

variable (env : OtlpEnv) (otelSpan : OtelSpan) (otelRes : OtelResource)
  (lib : OtelInstrumentationScope)

theorem keepsError_setKind (span : Lifecycle.Span) :
    KeepsError silent span (setKind env otelSpan span) :=
  keepsError_setMetaIfSome (fun _ same => absurd same (by decide)) span

theorem keepsError_setMissingFields (span : Lifecycle.Span) :
    KeepsError silent span (setMissingFields env otelSpan otelRes lib span) := by
  have texts : forall service name resource type, KeepsError silent span
      { span with service := service, name := name, resource := resource, type := type } :=
    fun _ _ _ _ => ⟨rfl, fun _ => rfl⟩
  have typed : forall current : Lifecycle.Span, KeepsError silent current
      (if hasMeta "span.type" current then current
        else setMeta "span.type" (getDdSpanKindFromOtelKind otelSpan) current) :=
    fun current => (KeepsError.refl current).ite (keepsError_setMeta (fun _ => by decide) _ current)
  have coded : forall (current : Lifecycle.Span) (metrics : AList (fun _ : String => Rat)),
      KeepsError silent current
        (if httpStatusCode env otelSpan ≠ 0 then { current with metrics := metrics }
          else current) :=
    fun current _ => KeepsError.ite ⟨rfl, fun _ => rfl⟩ (KeepsError.refl current)
  have placed : forall (current : Lifecycle.Span) (value : String), KeepsError silent current
      (if hasMeta "env" current then current else setMetaIfSome "env" value current) :=
    fun current _ => (KeepsError.refl current).ite
      (keepsError_setMetaIfSome (fun _ same => absurd same (by decide)) current)
  exact (KeepsError.refl span).ite
    ((((texts _ _ _ _).trans (typed _)).trans (coded _ _)).trans (placed _ _))

theorem keepsError_setTopLevel (span : Lifecycle.Span) :
    KeepsError silent span (setTopLevel env otelSpan span) :=
  KeepsError.ite ⟨rfl, fun _ => rfl⟩ (KeepsError.refl span)

theorem keepsError_setMeasured (span : Lifecycle.Span) :
    KeepsError silent span (setMeasured env otelSpan span) :=
  KeepsError.ite ⟨rfl, fun _ => rfl⟩ (KeepsError.refl span)

theorem keepsError_setTraceIdAndVersion (span : Lifecycle.Span) :
    KeepsError silent span (setTraceIdAndVersion env otelSpan otelRes span) := by
  have traced : KeepsError silent span
      (setMeta "otel.trace_id" (hexEncode otelSpan.traceId) span) :=
    keepsError_setMeta (fun _ => by decide) _ span
  exact KeepsError.ite
    (traced.trans (keepsError_setMetaIfSome (fun _ same => absurd same (by decide)) _)) traced

theorem keepsError_setEventsAndLinks (span : Lifecycle.Span) :
    KeepsError silent span (setEventsAndLinks env otelSpan span) := by
  have marked : KeepsError silent span (setSpanEventsHasException otelSpan span) :=
    (keepsError_setMeta (fun _ => by decide) _ span).ite (KeepsError.refl span)
  have optional : forall (condition : Bool) (key value : String) (current : Lifecycle.Span),
      key ≠ "error.msg" ->
      KeepsError silent current (if condition then current else setMeta key value current) :=
    fun _ _ value current other =>
      (KeepsError.refl current).ite (keepsError_setMeta (fun _ => other) value current)
  exact (marked.trans (optional _ _ _ _ (by decide))).trans (optional _ _ _ _ (by decide))

/-- The scope and the status, as far as the error of the span is not derived from them. -/
theorem keepsError_scope (span : Lifecycle.Span) :
    KeepsError silent span (setStatus otelSpan (setMetaIfSome "otel.scope.version" lib.version
      (setMetaIfSome "otel.scope.name" lib.name
        (setMetaIfSome "w3c.trace_state" otelSpan.traceState span)))) := by
  have optional : forall (key value : String) (current : Lifecycle.Span), key ≠ "error.msg" ->
      KeepsError silent current (setMetaIfSome key value current) :=
    fun key value current other =>
      keepsError_setMetaIfSome (fun _ same => absurd same other) current
  have described : forall current : Lifecycle.Span,
      KeepsError silent current (setStatus otelSpan current) := by
    intro current
    unfold setStatus
    split
    · exact (keepsError_setMeta (fun _ => by decide) _ current).trans
        (keepsError_setMeta (fun _ => by decide) _ _)
    · exact KeepsError.refl current
  exact (((optional _ _ span (by decide)).trans (optional _ _ _ (by decide))).trans
    (optional _ _ _ (by decide))).trans (described _)

end Steps

/-! ## The attributes -/

def OtelValue.isNumber : OtelValue -> Bool
  | .intValue _ => true
  | .doubleValue _ => true
  | _ => false

/-- No attribute of the span, the scope or the resource sets the message of the error:
texts that are empty are not set, and a number of the span becomes a metric. -/
structure NoErrorMessage (libraries : OtlpLibraries) (otelSpan : OtelSpan)
    (otelRes : OtelResource) (lib : OtelInstrumentationScope) : Prop where
  semantic : (getOtelAttributeValueAsString libraries otelSpan.attributes "datadog.error.msg"
    false).isEmpty = true
  resource : forall item, item ∈ otelRes.attributes -> item.key = "error.msg" ->
    forall value, item.value.join = some value -> (otelValueToString libraries value).isEmpty = true
  scope : forall item, item ∈ lib.attributes -> item.key = "error.msg" ->
    forall value, item.value.join = some value -> (otelValueToString libraries value).isEmpty = true
  span : forall item, item ∈ otelSpan.attributes -> item.key = "error.msg" ->
    forall value, item.value.join = some value -> value.isNumber = true

section Attributes

variable (env : OtlpEnv) (otelSpan : OtelSpan) (otelRes : OtelResource)
  (lib : OtelInstrumentationScope)

theorem keepsError_setSemanticKeys (span : Lifecycle.Span) :
    KeepsError (NoErrorMessage env.libraries otelSpan otelRes lib) span
      (setSemanticKeys env otelSpan span) := by
  refine keepsError_foldl ddSemanticKeysToMetaKeys _ ?_ span
  intro current keys member
  apply keepsError_setMetaIfSome
  intro silent same
  have semantic : keys.1 = "datadog.error.msg" := by
    revert keys
    decide
  rw [semantic]
  exact silent.semantic

theorem keepsError_setResourceAttributes (span : Lifecycle.Span) :
    KeepsError (NoErrorMessage env.libraries otelSpan otelRes lib) span
      (otelRes.attributes.foldl (setResourceAttribute env) span) := by
  refine keepsError_foldl otelRes.attributes _ ?_ span
  intro current item member
  unfold setResourceAttribute
  split
  · exact KeepsError.refl current
  · rename_i value given
    simp only
    split
    · exact KeepsError.refl current
    · rename_i present
      refine keepsError_setOtlpMetaMapped ?_ _ _ current
      intro silent same
      exact present (silent.resource item member same value given)

theorem keepsError_setScopeAttributes (span : Lifecycle.Span) :
    KeepsError (NoErrorMessage env.libraries otelSpan otelRes lib) span
      (lib.attributes.foldl (setScopeAttribute env) span) := by
  refine keepsError_foldl lib.attributes _ ?_ span
  intro current item member
  unfold setScopeAttribute
  split
  · exact KeepsError.refl current
  · rename_i value given
    exact keepsError_setMetaIfSome
      (fun silent same => silent.scope item member same value given) current

theorem keepsError_setSpanAttributes (span : Lifecycle.Span) :
    KeepsError (NoErrorMessage env.libraries otelSpan otelRes lib) span
      (otelSpan.attributes.foldl (setSpanAttribute env) span) := by
  refine keepsError_foldl otelSpan.attributes _ ?_ span
  intro current item member
  unfold setSpanAttribute
  split
  · exact KeepsError.refl current
  · split
    · exact KeepsError.refl current
    · exact keepsError_setOtlpMetricsMapped _ _ _ current
    · exact keepsError_setOtlpMetricsMapped _ _ _ current
    · rename_i value notDouble notInt given
      refine keepsError_setOtlpMetaMapped ?_ _ _ current
      intro silent same
      have number := silent.span item member same value given
      cases value with
      | intValue value => exact notInt value rfl
      | doubleValue value => exact notDouble value rfl
      | _ => cases number

/-- Everything between the flag and the derived message. -/
theorem keepsError_upToScope (span : Lifecycle.Span) :
    Exists fun last =>
      KeepsError (NoErrorMessage env.libraries otelSpan otelRes lib) (setError env otelSpan span)
        last ∧
      completeDdSpan env otelSpan otelRes lib span =
        if env.config.otlpConfigIgnoreMissingDatadogFields && (!hasMeta "error.msg" last ||
            !hasMeta "error.type" last || !hasMeta "error.stack" last) then
          setSpanErrorFromOtelSpan env.libraries otelSpan last
        else last := by
  refine ⟨_, ?_, rfl⟩
  refine KeepsError.trans ?_ (keepsError_scope otelSpan lib _)
  refine KeepsError.trans ?_ (keepsError_setSpanAttributes env otelSpan otelRes lib _)
  refine KeepsError.trans ?_ (keepsError_setEventsAndLinks env otelSpan _)
  refine KeepsError.trans ?_ (keepsError_setTraceIdAndVersion env otelSpan otelRes _)
  refine KeepsError.trans ?_ (keepsError_setScopeAttributes env otelSpan otelRes lib _)
  refine KeepsError.trans ?_ (keepsError_setResourceAttributes env otelSpan otelRes lib _)
  refine KeepsError.trans ?_ (keepsError_setSemanticKeys env otelSpan otelRes lib _)
  refine KeepsError.trans ?_ (keepsError_setMeasured env otelSpan _)
  refine KeepsError.trans ?_ (keepsError_setTopLevel env otelSpan _)
  refine KeepsError.trans ?_ (keepsError_setMissingFields env otelSpan otelRes lib _)
  exact keepsError_setKind env otelSpan (setError env otelSpan span)

end Attributes

/-! ## The exceptions and the status -/

/-- The message of an event, if it is an exception that has one. -/
def exceptionMessage (libraries : OtlpLibraries) (event : OtelEvent) : Option String :=
  let message := getOtelAttributeValueAsString libraries event.attributes "exception.message" false
  if event.name ≠ "exception" ∨ message.isEmpty then none else some message

/-- The message that a span with the status should have. -/
def expectedMessage (libraries : OtlpLibraries) (otelSpan : OtelSpan) (status : OtelStatus) :
    String :=
  (otelSpan.events.filterMap (exceptionMessage libraries)).getLast?.getD status.message

/-- The flag that a span whose status is an error should have. -/
def expectedError (otelSpan : OtelSpan) : Int :=
  match getOtelAttributeValue otelSpan.attributes "datadog.error" with
  | some (some (.intValue value)) => value
  | _ => 1

section Messages

variable (libraries : OtlpLibraries)

theorem error_setMetaIfSome (key value : String) (span : Lifecycle.Span) :
    (setMetaIfSome key value span).error = span.error := by
  unfold setMetaIfSome
  split
  · rfl
  · rfl

theorem setErrorFromEvent_fields (span : Lifecycle.Span) (event : OtelEvent) :
    (setErrorFromEvent libraries span event).error = span.error ∧
      (setErrorFromEvent libraries span event).metaTags.lookup "error.msg" =
        (exceptionMessage libraries event).or (span.metaTags.lookup "error.msg") := by
  have later : forall (current : Lifecycle.Span) (type stack : String), KeepsError True current
      (setMetaIfSome "error.stack" stack (setMetaIfSome "error.type" type current)) :=
    fun current type stack =>
      (keepsError_setMetaIfSome (fun _ same => absurd same (by decide)) current).trans
        (keepsError_setMetaIfSome (fun _ same => absurd same (by decide)) _)
  unfold setErrorFromEvent exceptionMessage
  by_cases other : event.name ≠ "exception"
  · simp only [other, if_true, true_or, ne_eq, not_false_eq_true, Option.none_or, and_self]
  · simp only [other, if_false, false_or]
    refine ⟨?_, ?_⟩
    · rw [(later _ _ _).flag, error_setMetaIfSome]
    · rw [(later _ _ _).message trivial, setMetaIfSome]
      split
      · rfl
      · exact AList.lookup_insert _

theorem setErrorFromEvents_fields (events : List OtelEvent) (span : Lifecycle.Span) :
    (events.foldl (setErrorFromEvent libraries) span).error = span.error ∧
      (events.foldl (setErrorFromEvent libraries) span).metaTags.lookup "error.msg" =
        (events.filterMap (exceptionMessage libraries)).getLast?.or
          (span.metaTags.lookup "error.msg") := by
  induction events using List.reverseRecOn with
  | nil => exact ⟨rfl, rfl⟩
  | append_singleton before event ih =>
      rcases setErrorFromEvent_fields libraries (before.foldl (setErrorFromEvent libraries) span)
        event with ⟨flag, message⟩
      rw [List.foldl_append]
      refine ⟨flag.trans ih.1, message.trans ?_⟩
      rw [ih.2]
      cases found : exceptionMessage libraries event with
      | none => simp [found]
      | some text => simp [found]

variable {otelSpan : OtelSpan} {status : OtelStatus}

/-- The message is derived from the events and the status, unless there is one. -/
theorem setSpanErrorFromOtelSpan_fields (errored : otelSpan.status = some status)
    (code : status.code = statusCodeError) {span : Lifecycle.Span} :
    (setSpanErrorFromOtelSpan libraries otelSpan span).error = span.error ∧
      (span.metaTags.lookup "error.msg" = none ->
        (setSpanErrorFromOtelSpan libraries otelSpan span).metaTags.lookup "error.msg" =
          some (expectedMessage libraries otelSpan status)) := by
  rcases setErrorFromEvents_fields libraries otelSpan.events span with ⟨flag, message⟩
  have failed : otelSpan.status.any (fun status => status.code != statusCodeError) = false := by
    rw [errored, Option.any_some, code]
    rfl
  unfold setSpanErrorFromOtelSpan expectedMessage
  simp only [failed, Bool.false_eq_true, if_false]
  rw [errored]
  refine ⟨?_, ?_⟩
  · split
    · exact flag
    · exact flag
  · intro unset
    rw [unset] at message
    cases last : (otelSpan.events.filterMap (exceptionMessage libraries)).getLast? with
    | none =>
        rw [last] at message
        rw [hasMeta, message]
        exact AList.lookup_insert _
    | some text =>
        rw [last] at message
        rw [hasMeta, message]
        exact message

end Messages

section Flag

variable (env : OtlpEnv) {otelSpan : OtelSpan} {status : OtelStatus}

/-- An integer is written inside an object and not found there again. -/
theorem setError_fields
    (serialized : forall value, env.libraries.i32FromJson (env.libraries.anyValueToJson value) = none)
    (errored : otelSpan.status = some status) (code : status.code = statusCodeError)
    (span : Lifecycle.Span) :
    ((setError env otelSpan span).error = expectedError otelSpan <->
        getOtelAttributeValue otelSpan.attributes "datadog.error" = none ∨
          getOtelAttributeValue otelSpan.attributes "datadog.error" =
            some (some (.intValue 0))) ∧
      (setError env otelSpan span).metaTags = span.metaTags := by
  unfold setError expectedError
  cases getOtelAttributeValue otelSpan.attributes "datadog.error" with
  | none =>
      rw [errored, Option.any_some, code]
      exact ⟨⟨fun _ => Or.inl rfl, fun _ => rfl⟩, rfl⟩
  | some value =>
      refine ⟨?_, rfl⟩
      simp only [serialized, reduceCtorEq, false_or]
      rcases value with _ | value
      · simp
      · cases value with
        | intValue value =>
            simp only [Option.some.injEq, OtelValue.intValue.injEq]
            exact eq_comm
        | _ => simp

end Flag

theorem exists_newDdSpan_of_converted {env : OtlpEnv} {otelSpan : OtelSpan}
    {otelRes : OtelResource} {lib : OtelInstrumentationScope} {span : Lifecycle.Span}
    (converted : otelSpanToDdSpan env otelSpan otelRes lib = Except.ok span) :
    Exists fun lower => Exists fun higher => Exists fun duration =>
      span = completeDdSpan env otelSpan otelRes lib
        (newDdSpan env otelSpan otelRes lower higher duration) := by
  unfold otelSpanToDdSpan at converted
  cases ids : otelTraceIdToDdId otelSpan.traceId with
  | error reason =>
      rw [ids] at converted
      cases converted
  | ok halves =>
      cases lasted : subU64 env.overflowChecks otelSpan.endTimeUnixNano
          otelSpan.startTimeUnixNano with
      | error reason =>
          rw [ids, lasted] at converted
          cases converted
      | ok duration =>
          rw [ids, lasted] at converted
          cases converted
          exact ⟨halves.1, halves.2, duration, rfl⟩

theorem lookup_newDdSpan (env : OtlpEnv) (otelSpan : OtelSpan) (otelRes : OtelResource)
    (lower higher duration : UInt64) :
    (newDdSpan env otelSpan otelRes lower higher duration).metaTags.lookup "error.msg" = none := by
  have other : "error.msg" ≠ Lifecycle.higherOrderTraceIdBitsKey := by decide
  exact (AList.lookup_insert_ne other).trans (AList.lookup_empty "error.msg")

/-- The error of a span whose status is one is reported as it should be exactly if no
Datadog attribute replaces the flag, other than by zero, and the message is set by an
attribute or the configuration ignores missing fields. -/
theorem error_reported_iff (env : OtlpEnv) (otelSpan : OtelSpan) (otelRes : OtelResource)
    (lib : OtelInstrumentationScope) (status : OtelStatus) (span : Lifecycle.Span)
    (serialized : forall value, env.libraries.i32FromJson (env.libraries.anyValueToJson value) = none)
    (errored : otelSpan.status = some status) (code : status.code = statusCodeError)
    (converted : otelSpanToDdSpan env otelSpan otelRes lib = Except.ok span) :
    (span.error = expectedError otelSpan ∧
        (NoErrorMessage env.libraries otelSpan otelRes lib ->
          span.metaTags.lookup "error.msg" =
            some (expectedMessage env.libraries otelSpan status))) <->
      (getOtelAttributeValue otelSpan.attributes "datadog.error" = none ∨
          getOtelAttributeValue otelSpan.attributes "datadog.error" =
            some (some (.intValue 0))) ∧
        (NoErrorMessage env.libraries otelSpan otelRes lib ->
          env.config.otlpConfigIgnoreMissingDatadogFields = true) := by
  rcases exists_newDdSpan_of_converted converted with ⟨lower, higher, duration, built⟩
  have serializes := setError_fields env serialized errored code
    (newDdSpan env otelSpan otelRes lower higher duration)
  rcases keepsError_upToScope env otelSpan otelRes lib
    (newDdSpan env otelSpan otelRes lower higher duration) with ⟨last, kept, complete⟩
  rcases @setSpanErrorFromOtelSpan_fields env.libraries otelSpan status errored code last with
    ⟨keepsFlag, derives⟩
  rw [complete] at built
  have flag : span.error =
      (setError env otelSpan (newDdSpan env otelSpan otelRes lower higher duration)).error := by
    rw [built]
    split
    · exact keepsFlag.trans kept.flag
    · exact kept.flag
  have message : NoErrorMessage env.libraries otelSpan otelRes lib ->
      (span.metaTags.lookup "error.msg" = some (expectedMessage env.libraries otelSpan status) <->
        env.config.otlpConfigIgnoreMissingDatadogFields = true) := by
    intro silent
    have unset : last.metaTags.lookup "error.msg" = none := by
      rw [kept.message silent, serializes.2]
      exact lookup_newDdSpan env otelSpan otelRes lower higher duration
    rw [built, hasMeta, unset]
    cases env.config.otlpConfigIgnoreMissingDatadogFields with
    | false =>
        rw [Bool.false_and, if_neg Bool.false_ne_true, unset]
        exact ⟨fun wrong => absurd wrong (by simp), fun wrong => absurd wrong (by simp)⟩
    | true =>
        exact ⟨fun _ => rfl, fun _ => derives unset⟩
  rw [flag, serializes.1]
  exact and_congr_right (fun _ => forall_congr' message)

/-- A span with an exception that has no message, where missing fields are ignored. -/
theorem error_reported_iff_described :
    let env : OtlpEnv := { OtlpEnv.plain true with config := ⟨false, ∅, true, []⟩ }
    let otelSpan : OtelSpan :=
      { traceId := List.replicate 16 1, spanId := List.replicate 8 1, startTimeUnixNano := 1,
        endTimeUnixNano := 2, events := [⟨1, "exception", [], 0⟩], status := some ⟨2, "boom"⟩ }
    Exists fun span => otelSpanToDdSpan env otelSpan ⟨[]⟩ ⟨"", "", []⟩ = Except.ok span ∧
        span.error = 1 ∧ span.metaTags.lookup "error.msg" = some "boom" := by
  intro env otelSpan
  refine ⟨_, rfl, ?_⟩
  have reported := (error_reported_iff env otelSpan ⟨[]⟩ ⟨"", "", []⟩ ⟨2, "boom"⟩ _
    (fun _ => rfl) rfl rfl rfl).mpr ⟨Or.inl rfl, fun _ => rfl⟩
  refine ⟨reported.1, reported.2 ⟨rfl, ?_, ?_, ?_⟩⟩
  · intro item member
    cases member
  · intro item member
    cases member
  · intro item member
    cases member

/-- With the default configuration the message is lost, and an integer attribute clears
the flag that the status alone would set. -/
theorem error_lost_by_default :
    let otelSpan (attributes : List KeyValue) : OtelSpan :=
      { traceId := List.replicate 16 1, spanId := List.replicate 8 1, startTimeUnixNano := 1,
        endTimeUnixNano := 2, attributes := attributes, status := some ⟨2, "boom"⟩ }
    let fields (attributes : List KeyValue) : Option (Int × Option String) :=
      (otelSpanToDdSpan (OtlpEnv.plain true) (otelSpan attributes) ⟨[]⟩ ⟨"", "", []⟩).toOption.map
        (fun span => (span.error, span.metaTags.lookup "error.msg"))
    fields [] = some (1, none) ∧
      fields [⟨"datadog.error", some (some (.intValue 1))⟩] = some (0, none) := by
  decide +kernel

end Otlp
end Bottlecap
