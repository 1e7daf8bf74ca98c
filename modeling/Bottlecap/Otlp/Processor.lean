import Bottlecap.Foundations.Grouping
import Bottlecap.Logs.HeldLogs
import Bottlecap.Otlp.Transform

namespace Bottlecap
namespace Otlp

open Foundations
open Logs (IterationOrder)

/-!
# Requests of OpenTelemetry exporters

`process_request` of `otlp/processor.rs` converts a request of spans, nested in
resources and instrumentation scopes, to groups of Datadog spans: one group for
every lower half of a trace id within a resource.  A resource or a scope is
optional in the protocol, and spans without either are left out.

A request fails, that is the extension panics, over the first span it cannot
convert.  The spans that are converted are the placed ones below.
-/

structure ScopeSpans where
  scope : Option OtelInstrumentationScope
  spans : List OtelSpan

structure ResourceSpans where
  resource : Option OtelResource
  scopeSpans : List ScopeSpans

structure ExportTraceServiceRequest where
  resourceSpans : List ResourceSpans

/-- `HashMap<u64, Vec<DatadogSpan>>` -/
abbrev TracesById := AList (fun _ : UInt64 => List Lifecycle.Span)

section Requests

variable (env : OtlpEnv) (order : IterationOrder (Sigma fun _ : UInt64 => List Lifecycle.Span))

/-- The body of the loop over the spans of a scope. -/
def addSpan (otelRes : OtelResource) (lib : OtelInstrumentationScope) (tracesById : TracesById)
    (otelSpan : OtelSpan) : Except OtlpPanic TracesById := do
  let (traceIdLower, _) <- otelTraceIdToDdId otelSpan.traceId
  let ddSpan <- otelSpanToDdSpan env otelSpan otelRes lib
  Except.ok (tracesById.insert traceIdLower ((tracesById.lookup traceIdLower).getD [] ++ [ddSpan]))

def addScopeSpans (otelRes : OtelResource) (tracesById : TracesById) (scopeSpans : ScopeSpans) :
    Except OtlpPanic TracesById :=
  match scopeSpans.scope with
  | none => Except.ok tracesById
  | some lib => scopeSpans.spans.foldlM (addSpan env otelRes lib) tracesById

def otelResourceSpansToDdSpans (resourceSpans : ResourceSpans) :
    Except OtlpPanic (List (List Lifecycle.Span)) :=
  match resourceSpans.resource with
  | none => Except.ok []
  | some otelRes => do
      let tracesById <- resourceSpans.scopeSpans.foldlM (addScopeSpans env otelRes) ∅
      Except.ok ((order.arrange tracesById.entries).map Sigma.snd)

def processRequest (request : ExportTraceServiceRequest) :
    Except OtlpPanic (List (List Lifecycle.Span)) :=
  request.resourceSpans.foldlM (fun spans resourceSpans =>
    (otelResourceSpansToDdSpans env order resourceSpans).map (fun converted => spans ++ converted)) []

end Requests

/-! ## The spans that are converted -/

/-- A span with the resource and the scope it was sent in. -/
structure PlacedSpan where
  otelRes : OtelResource
  lib : OtelInstrumentationScope
  otelSpan : OtelSpan

def ScopeSpans.placed (otelRes : OtelResource) (scopeSpans : ScopeSpans) : List PlacedSpan :=
  match scopeSpans.scope with
  | none => []
  | some lib => scopeSpans.spans.map (fun span => ⟨otelRes, lib, span⟩)

def ResourceSpans.placed (resourceSpans : ResourceSpans) : List PlacedSpan :=
  match resourceSpans.resource with
  | none => []
  | some otelRes => resourceSpans.scopeSpans.flatMap (ScopeSpans.placed otelRes)

/-- The span is in a resource that is given and in a scope that is given. -/
def ExportTraceServiceRequest.Converts (request : ExportTraceServiceRequest) (span : OtelSpan) :
    Prop :=
  Exists fun resourceSpans => resourceSpans ∈ request.resourceSpans ∧
    resourceSpans.resource.isSome = true ∧
    Exists fun scopeSpans => scopeSpans ∈ resourceSpans.scopeSpans ∧
      scopeSpans.scope.isSome = true ∧ span ∈ scopeSpans.spans

theorem converts_iff (request : ExportTraceServiceRequest) (span : OtelSpan) :
    request.Converts span <->
      Exists fun resourceSpans => resourceSpans ∈ request.resourceSpans ∧
        Exists fun placed => placed ∈ resourceSpans.placed ∧ placed.otelSpan = span := by
  constructor
  · rintro ⟨resourceSpans, member, resourceGiven, scopeSpans, scopeMember, scopeGiven, inside⟩
    obtain ⟨otelRes, resource⟩ := Option.isSome_iff_exists.mp resourceGiven
    obtain ⟨lib, scope⟩ := Option.isSome_iff_exists.mp scopeGiven
    refine ⟨resourceSpans, member, ⟨otelRes, lib, span⟩, ?_, rfl⟩
    rw [ResourceSpans.placed, resource, List.mem_flatMap]
    refine ⟨scopeSpans, scopeMember, ?_⟩
    rw [ScopeSpans.placed, scope, List.mem_map]
    exact ⟨span, inside, rfl⟩
  · rintro ⟨resourceSpans, member, placed, placedMember, rfl⟩
    refine ⟨resourceSpans, member, ?_⟩
    cases resource : resourceSpans.resource with
    | none =>
      rw [ResourceSpans.placed, resource] at placedMember
      cases placedMember
    | some =>
      rw [ResourceSpans.placed, resource, List.mem_flatMap] at placedMember
      obtain ⟨scopeSpans, scopeMember, inScope⟩ := placedMember
      refine ⟨rfl, scopeSpans, scopeMember, ?_⟩
      cases scope : scopeSpans.scope with
      | none =>
        rw [ScopeSpans.placed, scope] at inScope
        cases inScope
      | some =>
        rw [ScopeSpans.placed, scope, List.mem_map] at inScope
        obtain ⟨span, inside, rfl⟩ := inScope
        exact ⟨rfl, inside⟩

/-! ## Panics -/

namespace OtelSpan

/-- The id is long enough and, in a build that checks for overflow, the span
does not end before it starts. -/
def Convertible (overflowChecks : Bool) (span : OtelSpan) : Prop :=
  16 <= span.traceId.length ∧
    (overflowChecks = true -> span.startTimeUnixNano <= span.endTimeUnixNano)

def lowerTraceId (span : OtelSpan) : UInt64 := u64FromBeBytes ((span.traceId.drop 8).take 8)

def higherTraceId (span : OtelSpan) : UInt64 := u64FromBeBytes (span.traceId.take 8)

end OtelSpan

theorem slice_eq {bytes : List UInt8} {start last : Nat} (inside : last <= bytes.length) :
    slice bytes start last = Except.ok ((bytes.drop start).take (last - start)) :=
  if_pos inside

theorem otelTraceIdToDdId_eq (span : OtelSpan) :
    otelTraceIdToDdId span.traceId =
      if 16 <= span.traceId.length then Except.ok (span.lowerTraceId, span.higherTraceId)
      else Except.error (if 8 <= span.traceId.length
        then .rangeEndOutOfRange 16 span.traceId.length
        else .rangeStartOutOfRange 8 span.traceId.length) := by
  by_cases long : 16 <= span.traceId.length
  · have lower : ((span.traceId.drop 8).take (16 - 8)).length = 8 := by
      rw [List.length_take, List.length_drop]
      omega
    have higher : ((span.traceId.drop 0).take (8 - 0)).length = 8 := by
      rw [List.length_take, List.length_drop]
      omega
    rw [if_pos long, otelTraceIdToDdId, slice_eq long, slice_eq (by omega)]
    change Except.ok (u64OrDefault _, u64OrDefault _) = _
    rw [u64OrDefault, u64OrDefault, if_pos lower, if_pos higher]
    rfl
  · rw [if_neg long, otelTraceIdToDdId, slice, if_neg long]
    rfl

theorem subU64_eq (overflowChecks : Bool) (left right : UInt64) :
    subU64 overflowChecks left right =
      if overflowChecks = true -> right <= left then Except.ok (left - right)
      else Except.error .subtractOverflow := by
  rw [subU64]
  cases overflowChecks with
  | false => simp
  | true =>
    by_cases ordered : right <= left
    · rw [if_neg (by simpa using ordered), if_pos (fun _ => ordered)]
    · rw [if_pos (by simpa using ordered), if_neg (fun all => ordered (all rfl))]

section Conversion

variable (env : OtlpEnv) (order : IterationOrder (Sigma fun _ : UInt64 => List Lifecycle.Span))

/-- The Datadog span of a placed span, in a build where subtraction wraps. -/
def PlacedSpan.convert (placed : PlacedSpan) : Lifecycle.Span :=
  completeDdSpan env placed.otelSpan placed.otelRes placed.lib
    (newDdSpan env placed.otelSpan placed.otelRes placed.otelSpan.lowerTraceId
      placed.otelSpan.higherTraceId
      (placed.otelSpan.endTimeUnixNano - placed.otelSpan.startTimeUnixNano))

def PlacedSpan.lowerTraceId (placed : PlacedSpan) : UInt64 := placed.otelSpan.lowerTraceId

/-- The body of the loops, for a placed span. -/
def addPlaced (tracesById : TracesById) (placed : PlacedSpan) : Except OtlpPanic TracesById :=
  addSpan env placed.otelRes placed.lib tracesById placed.otelSpan

theorem addPlaced_of_convertible {placed : PlacedSpan}
    (convertible : placed.otelSpan.Convertible env.overflowChecks) (tracesById : TracesById) :
    addPlaced env tracesById placed =
      Except.ok (addToGroup PlacedSpan.lowerTraceId (PlacedSpan.convert env) tracesById placed) := by
  rw [addPlaced, addSpan, otelSpanToDdSpan]
  rw [otelTraceIdToDdId_eq, if_pos convertible.1, subU64_eq, if_pos convertible.2]
  rfl

theorem addPlaced_isOk_iff (tracesById : TracesById) (placed : PlacedSpan) :
    (addPlaced env tracesById placed).isOk = true <->
      placed.otelSpan.Convertible env.overflowChecks := by
  constructor
  · rw [addPlaced, addSpan, otelSpanToDdSpan]
    rw [otelTraceIdToDdId_eq, subU64_eq]
    intro returned
    refine ⟨?_, ?_⟩
    · by_contra short
      rw [if_neg short] at returned
      cases returned
    · by_contra reversed
      split at returned <;> cases returned
  · intro convertible
    rw [addPlaced_of_convertible env convertible]
    rfl

/-- The loops of a resource are one loop over its placed spans. -/
theorem foldlM_addScopeSpans (otelRes : OtelResource) (scopeSpans : List ScopeSpans)
    (tracesById : TracesById) :
    scopeSpans.foldlM (addScopeSpans env otelRes) tracesById =
      (scopeSpans.flatMap (ScopeSpans.placed otelRes)).foldlM (addPlaced env) tracesById := by
  rw [<- foldlM_flatMap]
  congr 1
  funext tracesById scopeSpans
  rw [addScopeSpans, ScopeSpans.placed]
  cases scopeSpans.scope with
  | none => rfl
  | some =>
    rw [List.foldlM_map]
    rfl

theorem otelResourceSpansToDdSpans_eq (resourceSpans : ResourceSpans) :
    otelResourceSpansToDdSpans env order resourceSpans =
      (resourceSpans.placed.foldlM (addPlaced env) ∅).map
        (fun tracesById => (order.arrange tracesById.entries).map Sigma.snd) := by
  rw [otelResourceSpansToDdSpans, ResourceSpans.placed]
  cases resourceSpans.resource with
  | none =>
    have empty : order.arrange [] = [] := (order.perm []).eq_nil
    change Except.ok [] = Except.ok ((order.arrange []).map Sigma.snd)
    rw [empty]
    rfl
  | some =>
    dsimp only
    rw [foldlM_addScopeSpans]
    rfl

theorem processRequest_isOk_iff (request : ExportTraceServiceRequest) :
    (processRequest env order request).isOk = true <->
      forall span, request.Converts span -> span.Convertible env.overflowChecks := by
  have each : forall (spans : List (List Lifecycle.Span)) (resourceSpans : ResourceSpans),
      ((otelResourceSpansToDdSpans env order resourceSpans).map
          (fun converted => spans ++ converted)).isOk = true <->
        forall placed, placed ∈ resourceSpans.placed ->
          placed.otelSpan.Convertible env.overflowChecks := by
    intro spans resourceSpans
    rw [otelResourceSpansToDdSpans_eq,
      <- foldlM_isOk_iff (addPlaced_isOk_iff env) resourceSpans.placed ∅]
    cases resourceSpans.placed.foldlM (addPlaced env) ∅ <;> exact Iff.rfl
  rw [processRequest, foldlM_isOk_iff each]
  constructor
  · intro all span converts
    obtain ⟨resourceSpans, member, placed, inside, rfl⟩ := (converts_iff request span).mp converts
    exact all resourceSpans member placed inside
  · intro all resourceSpans member placed inside
    exact all placed.otelSpan
      ((converts_iff request placed.otelSpan).mpr ⟨resourceSpans, member, placed, inside, rfl⟩)

theorem otelResourceSpansToDdSpans_partition (resourceSpans : ResourceSpans)
    (convertible : forall placed, placed ∈ resourceSpans.placed ->
      placed.otelSpan.Convertible env.overflowChecks) :
    Exists fun groups => otelResourceSpansToDdSpans env order resourceSpans =
          Except.ok (groups.map (List.map (PlacedSpan.convert env))) ∧
        Partition PlacedSpan.lowerTraceId resourceSpans.placed groups := by
  obtain ⟨groups, values, partitioned⟩ :=
    groupBy_partition PlacedSpan.lowerTraceId (PlacedSpan.convert env)
      (order.perm (groupBy PlacedSpan.lowerTraceId (PlacedSpan.convert env)
        resourceSpans.placed).entries)
  refine ⟨groups, ?_, partitioned⟩
  rw [otelResourceSpansToDdSpans_eq, foldlM_eq_ok
    (fun placed member => addPlaced_of_convertible env (convertible placed member)), <- values]
  rfl

end Conversion

/-- Every build converts a request without a panic, so that no slice is out of
range and no subtraction underflows, exactly if each span that it converts, those
in a resource and a scope that are given, has a trace id of at least sixteen bytes
and does not end before it starts. -/
theorem request_converted_iff (libraries : OtlpLibraries) (config : OtlpConfig)
    (order : IterationOrder (Sigma fun _ : UInt64 => List Lifecycle.Span))
    (request : ExportTraceServiceRequest) :
    (forall overflowChecks,
        (processRequest ⟨libraries, config, overflowChecks⟩ order request).isOk = true) <->
      forall span, request.Converts span ->
        16 <= span.traceId.length ∧ span.startTimeUnixNano <= span.endTimeUnixNano := by
  constructor
  · intro all span converts
    have convertible := (processRequest_isOk_iff _ order request).mp (all true) span converts
    exact ⟨convertible.1, convertible.2 rfl⟩
  · intro all overflowChecks
    apply (processRequest_isOk_iff _ order request).mpr
    intro span converts
    exact ⟨(all span converts).1, fun _ => (all span converts).2⟩

namespace OtlpEnv

/-- Libraries that change nothing, for runs on fixed requests. -/
def plain (overflowChecks : Bool) : OtlpEnv where
  libraries := ⟨id, id, id, fun _ => "", fun _ => "", fun _ => "", fun _ => "", fun _ => "",
    fun _ => none⟩
  config := ⟨false, ∅, false, []⟩
  overflowChecks := overflowChecks

end OtlpEnv

/-- A request with one resource and one scope. -/
def ExportTraceServiceRequest.ofSpans (spans : List OtelSpan) : ExportTraceServiceRequest :=
  ⟨[⟨some ⟨[]⟩, [⟨some ⟨"", "", []⟩, spans⟩]⟩]⟩

theorem mem_of_converts_ofSpans {spans : List OtelSpan} {span : OtelSpan}
    (converts : (ExportTraceServiceRequest.ofSpans spans).Converts span) : span ∈ spans := by
  obtain ⟨resourceSpans, member, _, scopeSpans, scopeMember, _, inside⟩ := converts
  obtain rfl := List.mem_singleton.mp member
  obtain rfl := List.mem_singleton.mp scopeMember
  exact inside

/-- A span with an id of eight bytes aborts the extension, and in a build with
overflow checks so does one that ends before it starts. -/
theorem short_trace_id_panics :
    processRequest (OtlpEnv.plain false) (IterationOrder.listed _)
        (ExportTraceServiceRequest.ofSpans
          [{ traceId := List.replicate 8 1, spanId := List.replicate 8 1, startTimeUnixNano := 1,
             endTimeUnixNano := 2 }]) = Except.error (.rangeEndOutOfRange 16 8) ∧
      processRequest (OtlpEnv.plain true) (IterationOrder.listed _)
        (ExportTraceServiceRequest.ofSpans
          [{ traceId := List.replicate 16 1, spanId := List.replicate 8 1, startTimeUnixNano := 2,
             endTimeUnixNano := 1 }]) = Except.error .subtractOverflow :=
  ⟨rfl, rfl⟩

/-! ## Groups -/

/-- The spans of a request with trace ids of sixteen bytes are converted, each one
that is in a resource and a scope that are given exactly once, and two of them that
are in the same resource are in the same group exactly if the lower halves of their
trace ids are equal.  A build with overflow checks needs spans that do not end
before they start. -/
theorem request_spans_grouped (env : OtlpEnv)
    (order : IterationOrder (Sigma fun _ : UInt64 => List Lifecycle.Span))
    (request : ExportTraceServiceRequest)
    (sixteen : forall span, request.Converts span -> span.traceId.length = 16)
    (ordered : env.overflowChecks = true -> forall span, request.Converts span ->
      span.startTimeUnixNano <= span.endTimeUnixNano) :
    Exists fun grouping => processRequest env order request =
          Except.ok (grouping.flatten.map (List.map (PlacedSpan.convert env))) ∧
        List.Forall₂ (fun resourceSpans groups =>
            Partition PlacedSpan.lowerTraceId (ResourceSpans.placed resourceSpans) groups)
          request.resourceSpans grouping := by
  have convertible : forall resourceSpans, resourceSpans ∈ request.resourceSpans ->
      forall placed, placed ∈ resourceSpans.placed ->
        placed.otelSpan.Convertible env.overflowChecks := by
    intro resourceSpans member placed inside
    have converts : request.Converts placed.otelSpan :=
      (converts_iff request placed.otelSpan).mpr ⟨resourceSpans, member, placed, inside, rfl⟩
    exact ⟨(sixteen placed.otelSpan converts).ge, fun checked => ordered checked _ converts⟩
  obtain ⟨grouping, processed, partitioned⟩ := foldlM_append_eq_ok
    (fun resourceSpans member =>
      otelResourceSpansToDdSpans_partition env order resourceSpans (convertible resourceSpans member))
    []
  refine ⟨grouping, ?_, partitioned⟩
  rw [processRequest, processed, List.nil_append, List.map_flatten, List.flatMap_def]

/-- Two spans of one trace, in a build with overflow checks. -/
theorem request_spans_grouped_pair :
    let request := ExportTraceServiceRequest.ofSpans
      [{ traceId := List.replicate 16 1, spanId := List.replicate 8 1, startTimeUnixNano := 1,
         endTimeUnixNano := 2 },
       { traceId := List.replicate 16 1, spanId := List.replicate 8 2, startTimeUnixNano := 1,
         endTimeUnixNano := 2 }]
    Exists fun grouping => processRequest (OtlpEnv.plain true) (IterationOrder.listed _) request =
          Except.ok (grouping.flatten.map (List.map (PlacedSpan.convert (OtlpEnv.plain true)))) ∧
        List.Forall₂ (fun resourceSpans groups =>
            Partition PlacedSpan.lowerTraceId (ResourceSpans.placed resourceSpans) groups)
          request.resourceSpans grouping := by
  intro request
  refine request_spans_grouped (OtlpEnv.plain true) (IterationOrder.listed _) request ?_ ?_
  · intro span converts
    rcases List.mem_pair.mp (mem_of_converts_ofSpans converts) with rfl | rfl <;> rfl
  · intro _ span converts
    rcases List.mem_pair.mp (mem_of_converts_ofSpans converts) with rfl | rfl <;> decide

/-- A span is lost if its resource or its scope is not given, and two spans whose
trace ids differ in the higher half only are in one group. -/
theorem spans_lost_or_joined :
    let span (higher : UInt8) : OtelSpan :=
      { traceId := List.replicate 8 higher ++ List.replicate 8 1, spanId := List.replicate 8 1,
        startTimeUnixNano := 1, endTimeUnixNano := 2 }
    let sizes (request : ExportTraceServiceRequest) : Option (List Nat) :=
      (processRequest (OtlpEnv.plain true) (IterationOrder.listed _) request).toOption.map
        (List.map List.length)
    sizes ⟨[⟨none, [⟨some ⟨"", "", []⟩, [span 1]⟩]⟩]⟩ = some [] ∧
      sizes ⟨[⟨some ⟨[]⟩, [⟨none, [span 1]⟩]⟩]⟩ = some [] ∧
      sizes (ExportTraceServiceRequest.ofSpans [span 1, span 2]) = some [2] := by
  decide +kernel

end Otlp
end Bottlecap
