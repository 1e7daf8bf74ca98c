import Bottlecap.Foundations.Threading
import Bottlecap.Traces.ChunkProcessor

namespace Bottlecap
namespace Traces

open Foundations Lifecycle

/-!
# Processing of traces

`ServerlessTraceProcessor` of `traces/trace_processor.rs`: the traces of a tracer are
collected into payloads, and where the backend does not compute the stats, the chunks
that are sampled out are removed before sending.  The error sampler may rescue a chunk
with an error.  Its decisions depend on a state of its own, which passes from chunk to
chunk through all payloads.

The sampler, the search for the root span, the collection of the payloads and their
encoding come from other crates and are fields of `TraceLibraries`.  Nothing is assumed
of them, but that a root is one of the spans it was searched among.
-/

/-- A `TraceChunk` of the protocol, with the priority that sampling reads. -/
structure SampledChunk extends TraceChunk where
  priority : Int

structure TracerPayload where
  env : String
  tags : Tags
  chunks : List SampledChunk

inductive TracerPayloadCollection where
  | v04 (traces : List (List Span))
  | v05 (traces : List (List Span))
  | v07 (payloads : List TracerPayload)

structure TracerHeaderTags where
  clientComputedStats : Bool
  others : Tags

/-- What the error sampler sees of a span. -/
structure SpanView where
  service : String
  name : String
  resource : String
  error : Bool
  httpStatusCode : Option String
  errorType : Option String

structure TraceView where
  env : String
  traceId : UInt64
  rootIndex : Nat
  rootGlobalSampleRate : Rat
  spans : List SpanView

inductive SampleDecision where
  | keep (errorsSr : Rat)
  | drop

/-- The behaviour of the crates that the processor calls. -/
structure TraceLibraries (Sampler : Type) where
  isDisabled : Sampler -> Bool
  sample : Int -> TraceView -> Sampler -> SampleDecision × Sampler
  getRootSpanIndex : (spans : List Span) -> Option (Fin spans.length)
  collectPbTraceChunks : List (List Span) -> TracerHeaderTags -> ChunkProcessor ->
    Option TracerPayloadCollection
  encodedLen : TracerPayload -> Nat
  uriFromStr : String -> Option String

/-- `StatsComputedBy::resolve` -/
def StatsComputedBy.resolve (computeOnExtension clientComputedStats : Bool) : StatsComputedBy :=
  if clientComputedStats then .tracer
  else if computeOnExtension then .extension
  else .backend

/-- `SamplerPriority::None` -/
def samplerPriorityNone : Int := -128

def userDropPriority : Int := -1

def manualSamplingDecisionMaker : String := "-4"

def spanView (span : Span) : SpanView where
  service := span.service
  name := span.name
  resource := span.resource
  error := span.error != 0
  httpStatusCode := span.metaTags.lookup "http.status_code"
  errorType := span.metaTags.lookup "error.type"

def isManualTracerDrop (chunk : SampledChunk) : Bool :=
  chunk.priority == userDropPriority &&
    chunk.tags.lookup ChunkProcessor.decisionMakerTag == some manualSamplingDecisionMaker

structure ServerlessTraceProcessor (Sampler : Type) where
  libraries : TraceLibraries Sampler
  errorRareSampleTracerDrop : Bool

namespace ServerlessTraceProcessor

variable {Sampler : Type} (processor : ServerlessTraceProcessor Sampler)

def traceView (env : String) (chunk : SampledChunk) (root : Fin chunk.spans.length) : TraceView where
  env := env
  traceId := (chunk.spans.get root).traceId
  rootIndex := root
  rootGlobalSampleRate := ((chunk.spans.get root).metrics.lookup "_sample_rate").getD 1
  spans := chunk.spans.map spanView

/-- The rate at which errors are sampled, as a metric of a span. -/
def stampErrorsSr (errorsSr : Rat) (span : Span) : Span :=
  { span with metrics := span.metrics.insert "_dd.errors_sr" errorsSr }

/-- `rescue_error_chunk`, with the chunk as it is kept. -/
def rescueErrorChunk (env : String) (nowSecs : Int) (sampler : Sampler) (chunk : SampledChunk) :
    Option SampledChunk × Sampler :=
  if !chunk.spans.any (fun span => span.error != 0) then (none, sampler)
  else
    match processor.libraries.getRootSpanIndex chunk.spans with
    | none => (none, sampler)
    | some root =>
      match processor.libraries.sample nowSecs (traceView env chunk root) sampler with
      | (.keep errorsSr, sampler) =>
        (some { chunk with spans := chunk.spans.modify root (stampErrorsSr errorsSr) }, sampler)
      | (.drop, sampler) => (none, sampler)

/-- The closure that `retain_mut` calls on each chunk. -/
def retainChunk (rescueEnabled : Bool) (env : String) (nowSecs : Int) (sampler : Sampler)
    (chunk : SampledChunk) : Option SampledChunk × Sampler :=
  if 0 < chunk.priority ∨ chunk.priority = samplerPriorityNone then (some chunk, sampler)
  else if chunk.priority < 0 ∧
      (!processor.errorRareSampleTracerDrop || isManualTracerDrop chunk) = true then
    (none, sampler)
  else if !rescueEnabled then (none, sampler)
  else processor.rescueErrorChunk env nowSecs sampler chunk

/-- The body of the loop over the payloads. -/
def retainChunks (rescueEnabled : Bool) (nowSecs : Int) (sampler : Sampler)
    (payload : TracerPayload) : TracerPayload × Sampler :=
  let retained := Threading.thread (processor.retainChunk rescueEnabled payload.env nowSecs) sampler
    payload.chunks
  ({ payload with chunks := retained.1.reduceOption }, retained.2)

/-- The clock is read only if the sampler may need it. -/
def nowSecs (now : Int) (sampler : Sampler) : Int :=
  if processor.libraries.isDisabled sampler then 0 else now

def dropSampledOutChunks (now : Int) (sampler : Sampler) (payloads : List TracerPayload) :
    List TracerPayload × Sampler :=
  let rescueEnabled := !processor.libraries.isDisabled sampler
  let retained := Threading.thread
    (processor.retainChunks rescueEnabled (processor.nowSecs now sampler)) sampler payloads
  (retained.1.filter (fun payload => !payload.chunks.isEmpty), retained.2)

end ServerlessTraceProcessor

/-! ## Requests -/

structure TraceConfig where
  chunks : ChunkConfig
  lambdaExtensionComputeStats : Bool
  apmDdUrl : String
  flushTimeout : UInt64
  apmConfigCompressionLevel : Int

/-- What `process_traces` reads of the tags of the function. -/
structure TagsProvider where
  tagsMap : Tags
  functionTagsMap : Tags
  canonicalResourceName : Option String

structure SendDataBuilderInfo where
  size : Nat
  payload : TracerPayloadCollection
  headerTags : TracerHeaderTags
  url : String
  timeoutMs : UInt64
  compressionLevel : Int

/-- `S_TO_MS` -/
def sToMs : UInt64 := 1000

/-- The tags of the function for all payloads of a collection. -/
def addFunctionTags (functionTags : Tags) : TracerPayloadCollection -> TracerPayloadCollection
  | .v07 payloads => .v07
      (payloads.map (fun payload => { payload with tags := extend payload.tags functionTags }))
  | collection => collection

/-- The payloads that stats are computed from: none for an older collection. -/
def payloadsForStats : TracerPayloadCollection -> List TracerPayload
  | .v07 payloads => payloads
  | _ => []

namespace ServerlessTraceProcessor

variable {Sampler : Type} (processor : ServerlessTraceProcessor Sampler)

/-- The collection before anything is removed.  An error gives an empty one. -/
def collectPayloads (chunkLibraries : ChunkLibraries) (config : TraceConfig)
    (provider : TagsProvider) (headerTags : TracerHeaderTags) (traces : List (List Span))
    (spanPointers : Option (List SpanPointer)) : TracerPayloadCollection :=
  let chunkProcessor : ChunkProcessor :=
    { libraries := chunkLibraries
      config := config.chunks
      tagsMap := provider.tagsMap
      canonicalResourceName := provider.canonicalResourceName
      spanPointers := spanPointers
      statsComputedBy := StatsComputedBy.resolve config.lambdaExtensionComputeStats
        headerTags.clientComputedStats }
  addFunctionTags provider.functionTagsMap
    ((processor.libraries.collectPbTraceChunks traces headerTags chunkProcessor).getD
      (.v07 []))

/-- What is sent of a collection, if anything is left, and the sampler after it. -/
def filterCollection (statsComputedBy : StatsComputedBy) (now : Int) (sampler : Sampler) :
    TracerPayloadCollection -> Option TracerPayloadCollection × Sampler
  | .v07 payloads =>
    if statsComputedBy ≠ .backend then
      let kept := processor.dropSampledOutChunks now sampler payloads
      (if kept.1.isEmpty then none else some (.v07 kept.1), kept.2)
    else (some (.v07 payloads), sampler)
  | collection => (some collection, sampler)

/-- The size of what is sent, that of the body for an older collection. -/
def sizeOf (bodySize : Nat) : TracerPayloadCollection -> Nat
  | .v07 payloads => (payloads.map processor.libraries.encodedLen).sum
  | _ => bodySize

/-- `process_traces`, with the builder, the payloads for the stats and the sampler.
Nothing is returned if the address of the intake is invalid, where the source panics. -/
def processTraces (chunkLibraries : ChunkLibraries) (config : TraceConfig)
    (provider : TagsProvider) (headerTags : TracerHeaderTags) (traces : List (List Span))
    (bodySize : Nat) (spanPointers : Option (List SpanPointer)) (now : Int) (sampler : Sampler) :
    Option (Option SendDataBuilderInfo × TracerPayloadCollection × Sampler) := do
  let payload := processor.collectPayloads chunkLibraries config provider headerTags traces spanPointers
  let url <- processor.libraries.uriFromStr config.apmDdUrl
  let stats := .v07 (payloadsForStats payload)
  let filtered := processor.filterCollection
    (StatsComputedBy.resolve config.lambdaExtensionComputeStats headerTags.clientComputedStats) now
    sampler payload
  let builder := filtered.1.map (fun kept =>
    { size := processor.sizeOf bodySize kept
      payload := kept
      headerTags := headerTags
      url := url
      timeoutMs := config.flushTimeout * sToMs
      compressionLevel := config.apmConfigCompressionLevel : SendDataBuilderInfo })
  some (builder, stats, filtered.2)

/-! ## The chunks that survive -/

section Survivors

variable (rescueEnabled : Bool) (env : String) (nowSecs : Int) (sampler : Sampler)

/-- The tracer decided to keep the chunk, or made no decision. -/
def Sampled (chunk : SampledChunk) : Prop :=
  0 < chunk.priority ∨ chunk.priority = samplerPriorityNone

/-- Some span of the chunk has an error. -/
def Errored (chunk : SampledChunk) : Prop :=
  Exists fun span => span ∈ chunk.spans ∧ span.error ≠ 0

/-- The sampler is enabled and keeps the trace with the given root at the given rate. -/
def SamplerKeeps (chunk : SampledChunk) (root : Fin chunk.spans.length) (errorsSr : Rat) : Prop :=
  rescueEnabled = true ∧
    (processor.libraries.sample nowSecs (traceView env chunk root) sampler).1 = .keep errorsSr

/-- The drop of the tracer is not binding. -/
def Rescuable (chunk : SampledChunk) : Prop :=
  chunk.priority = 0 ∨ (processor.errorRareSampleTracerDrop = true ∧ chunk.priority < 0 ∧
    ¬ isManualTracerDrop chunk = true)

/-- What a chunk that meets the sampler survives as: itself, or if it is rescued, itself
with the rate on the root. -/
inductive Survives (chunk : SampledChunk) : SampledChunk -> Prop where
  | sampled (priority : Sampled chunk) : Survives chunk chunk
  | rescued (root : Fin chunk.spans.length) (errorsSr : Rat) (undecided : ¬ Sampled chunk)
      (errored : Errored chunk)
      (found : processor.libraries.getRootSpanIndex chunk.spans = some root)
      (keeps : processor.SamplerKeeps rescueEnabled env nowSecs sampler chunk root errorsSr)
      (rescuable : processor.Rescuable chunk) :
      Survives chunk { chunk with spans := chunk.spans.modify root (stampErrorsSr errorsSr) }

/-- The payload with the chunks that survive, in their order. -/
def Filtered (met : Sampler × TracerPayload) (kept : TracerPayload) : Prop :=
  Exists fun fates => kept = { met.2 with chunks := fates.reduceOption } ∧
      List.Forall₂
        (fun (met_ : Sampler × SampledChunk) fate => forall survivor, fate = some survivor <->
          processor.Survives rescueEnabled met.2.env nowSecs met_.1 met_.2 survivor)
        (Threading.meets (processor.retainChunk rescueEnabled met.2.env nowSecs) met.1
          met.2.chunks) fates

variable {rescueEnabled env nowSecs sampler} {chunk survivor : SampledChunk}

theorem any_error_iff : chunk.spans.any (fun span => span.error != 0) = true <-> Errored chunk := by
  rw [List.any_eq_true]
  refine exists_congr ?_
  intro span
  rw [bne_iff_ne]

/-- With an enabled sampler, what `rescue_error_chunk` keeps. -/
theorem rescueErrorChunk_eq_some_iff :
    (processor.rescueErrorChunk env nowSecs sampler chunk).1 = some survivor <->
      Exists fun root => Exists fun errorsSr =>
        Errored chunk ∧ processor.libraries.getRootSpanIndex chunk.spans = some root ∧
          processor.SamplerKeeps true env nowSecs sampler chunk root errorsSr ∧
          survivor = { chunk with spans := chunk.spans.modify root (stampErrorsSr errorsSr) } := by
  unfold rescueErrorChunk SamplerKeeps
  by_cases errored : chunk.spans.any (fun span => span.error != 0) = true
  · rw [errored, Bool.not_true, if_neg Bool.false_ne_true]
    have error := any_error_iff.mp errored
    cases found : processor.libraries.getRootSpanIndex chunk.spans with
    | none => simp
    | some root =>
      rcases sampled : processor.libraries.sample nowSecs (traceView env chunk root) sampler with
        ⟨decision, next⟩
      cases decision with
      | keep errorsSr =>
        simp only [sampled, Option.some.injEq, true_and]
        refine ⟨?_, ?_⟩
        · intro same
          exact ⟨root, errorsSr, error, rfl, by rw [sampled], same.symm⟩
        · rintro ⟨other, rate, _, rfl, keeps, same⟩
          rw [sampled] at keeps
          cases keeps
          exact same.symm
      | drop =>
        simp only [sampled, reduceCtorEq, false_iff, true_and]
        rintro ⟨other, rate, _, same, keeps, _⟩
        cases same
        rw [sampled] at keeps
        cases keeps
  · rw [Bool.not_eq_true] at errored
    rw [errored, Bool.not_false]
    refine ⟨fun wrong => (by cases wrong), ?_⟩
    rintro ⟨_, _, error, _⟩
    rw [any_error_iff.mpr error] at errored
    cases errored

/-- The second test of the closure, for a chunk that passed the first. -/
theorem binding_iff (undecided : ¬ Sampled chunk) :
    (chunk.priority < 0 ∧
        (!processor.errorRareSampleTracerDrop || isManualTracerDrop chunk) = true) <->
      ¬ processor.Rescuable chunk := by
  unfold Sampled at undecided
  unfold Rescuable
  rw [Bool.or_eq_true, Bool.not_eq_true']
  cases processor.errorRareSampleTracerDrop with
  | false =>
    simp only [true_or, and_true, Bool.false_eq_true, false_and, or_false]
    omega
  | true =>
    simp only [Bool.true_eq_false, false_or, true_and]
    by_cases manual : isManualTracerDrop chunk = true
    · simp only [manual, and_true, not_true_eq_false, and_false, or_false]
      omega
    · rw [Bool.not_eq_true] at manual
      simp only [manual, Bool.false_eq_true, and_false, not_false_eq_true, and_true, false_iff]
      omega

/-- The closure keeps exactly the chunks that survive, as what they survive as. -/
theorem retainChunk_eq_some_iff :
    (processor.retainChunk rescueEnabled env nowSecs sampler chunk).1 = some survivor <->
      processor.Survives rescueEnabled env nowSecs sampler chunk survivor := by
  unfold retainChunk
  by_cases sampled : Sampled chunk
  · have kept : 0 < chunk.priority ∨ chunk.priority = samplerPriorityNone := sampled
    rw [if_pos kept]
    refine ⟨?_, ?_⟩
    · intro same
      cases same
      exact .sampled sampled
    · intro survives
      cases survives with
      | sampled => rfl
      | rescued _ _ undecided => exact absurd sampled undecided
  · have undecided : ¬ (0 < chunk.priority ∨ chunk.priority = samplerPriorityNone) := sampled
    rw [if_neg undecided]
    have binding := processor.binding_iff sampled
    by_cases rescuable : processor.Rescuable chunk
    · rw [if_neg (fun bound => binding.mp bound rescuable)]
      cases rescueEnabled with
      | false =>
        refine ⟨fun wrong => (by cases wrong), ?_⟩
        intro survives
        cases survives with
        | sampled priority => exact absurd priority sampled
        | rescued _ _ _ _ _ keeps => cases keeps.1
      | true =>
        rw [Bool.not_true, if_neg Bool.false_ne_true, rescueErrorChunk_eq_some_iff]
        refine ⟨?_, ?_⟩
        · rintro ⟨root, errorsSr, errored, found, keeps, rfl⟩
          exact .rescued root errorsSr sampled errored found keeps rescuable
        · intro survives
          cases survives with
          | sampled priority => exact absurd priority sampled
          | rescued root errorsSr _ errored found keeps =>
            exact ⟨root, errorsSr, errored, found, keeps, rfl⟩
    · rw [if_pos (binding.mpr rescuable)]
      refine ⟨fun wrong => (by cases wrong), ?_⟩
      intro survives
      cases survives with
      | sampled priority => exact absurd priority sampled
      | rescued _ _ _ _ _ _ allowed => exact absurd allowed rescuable

/-- The chunks that survive as something. -/
theorem exists_survives_iff :
    (Exists fun survivor => processor.Survives rescueEnabled env nowSecs sampler chunk survivor) <->
      Sampled chunk ∨ (Errored chunk ∧ processor.Rescuable chunk ∧
        Exists fun root => Exists fun errorsSr =>
          processor.libraries.getRootSpanIndex chunk.spans = some root ∧
            processor.SamplerKeeps rescueEnabled env nowSecs sampler chunk root errorsSr) := by
  refine ⟨?_, ?_⟩
  · rintro ⟨survivor, survives⟩
    cases survives with
    | sampled priority => exact Or.inl priority
    | rescued root errorsSr _ errored found keeps rescuable =>
      exact Or.inr ⟨errored, rescuable, root, errorsSr, found, keeps⟩
  · intro either
    by_cases sampled : Sampled chunk
    · exact ⟨chunk, .sampled sampled⟩
    · rcases either with priority | ⟨errored, rescuable, root, errorsSr, found, keeps⟩
      · exact absurd priority sampled
      · exact ⟨_, .rescued root errorsSr sampled errored found keeps rescuable⟩

theorem filtered_retainChunks (payload : TracerPayload) :
    processor.Filtered rescueEnabled nowSecs (sampler, payload)
      (processor.retainChunks rescueEnabled nowSecs sampler payload).1 := by
  refine ⟨_, rfl, ?_⟩
  apply Threading.forall₂_thread
  intro met chunk survivor
  exact processor.retainChunk_eq_some_iff

end Survivors

/-- The builder is made of the payloads that are collected, filtered unless the backend
needs them all, and the stats of the payloads themselves. -/
theorem processTraces_v07 {chunkLibraries : ChunkLibraries} {config : TraceConfig}
    {provider : TagsProvider} {headerTags : TracerHeaderTags} {traces : List (List Span)}
    {bodySize : Nat} {spanPointers : Option (List SpanPointer)} {now : Int} {sampler next : Sampler}
    {payloads : List TracerPayload} {builder : Option SendDataBuilderInfo}
    {stats : TracerPayloadCollection}
    (collected : processor.collectPayloads chunkLibraries config provider headerTags traces
      spanPointers = .v07 payloads)
    (processed : processor.processTraces chunkLibraries config provider headerTags traces bodySize
      spanPointers now sampler = some (builder, stats, next)) :
    stats = .v07 payloads ∧
      (StatsComputedBy.resolve config.lambdaExtensionComputeStats headerTags.clientComputedStats ≠
          .backend ->
        forall info, builder = some info -> info.payload =
          .v07 (processor.dropSampledOutChunks now sampler payloads).1) := by
  unfold processTraces at processed
  rw [collected] at processed
  cases valid : processor.libraries.uriFromStr config.apmDdUrl with
  | none =>
    rw [valid] at processed
    cases processed
  | some =>
    rw [valid] at processed
    cases processed
    refine ⟨rfl, ?_⟩
    intro filters info made
    rw [filterCollection, if_pos filters] at made
    simp only at made
    split at made
    · cases made
    · cases made
      rfl

/-- Filtering keeps the chunks that survive in their order, each in the state of the
sampler that it meets, then removes the payloads without chunks.  The chunks that
survive are those the tracer sampled and those that are rescued.  The stats are those
of the payloads before they are filtered. -/
theorem sampled_out_chunks_dropped (now : Int) (sampler : Sampler) (payloads : List TracerPayload) :
    let enabled := !processor.libraries.isDisabled sampler
    let nowSecs := processor.nowSecs now sampler
    (Exists fun filtered => List.Forall₂ (processor.Filtered enabled nowSecs)
          (Threading.meets (processor.retainChunks enabled nowSecs) sampler payloads) filtered ∧
        (processor.dropSampledOutChunks now sampler payloads).1 =
          filtered.filter (fun payload => !payload.chunks.isEmpty)) ∧
    (forall env met chunk,
      (Exists fun survivor => processor.Survives enabled env nowSecs met chunk survivor) <->
        Sampled chunk ∨ (Errored chunk ∧ processor.Rescuable chunk ∧
          Exists fun root => Exists fun errorsSr =>
            processor.libraries.getRootSpanIndex chunk.spans = some root ∧
              processor.SamplerKeeps enabled env nowSecs met chunk root errorsSr)) ∧
    (forall chunkLibraries config provider headerTags traces bodySize spanPointers builder stats next,
      processor.collectPayloads chunkLibraries config provider headerTags traces spanPointers =
          .v07 payloads ->
      processor.processTraces chunkLibraries config provider headerTags traces bodySize spanPointers
          now sampler = some (builder, stats, next) ->
      stats = .v07 payloads ∧
        (StatsComputedBy.resolve config.lambdaExtensionComputeStats
            headerTags.clientComputedStats ≠ .backend ->
          forall info, builder = some info -> info.payload = .v07
            (processor.dropSampledOutChunks now sampler payloads).1)) := by
  refine ⟨⟨_, ?_, rfl⟩, ?_, ?_⟩
  · apply Threading.forall₂_thread
    intro met payload
    exact processor.filtered_retainChunks payload
  · intro env met chunk
    exact processor.exists_survives_iff
  · intro chunkLibraries config provider headerTags traces bodySize spanPointers builder stats next
      collected processed
    exact processor.processTraces_v07 collected processed

/-- A sampler that keeps everything, the first span as root, and one payload with every
trace as a chunk that the tracer dropped. -/
def keepingErrors : ServerlessTraceProcessor Unit where
  libraries :=
    { isDisabled := fun _ => false
      sample := fun _ _ sampler => (.keep 1, sampler)
      getRootSpanIndex := fun spans =>
        if inside : 0 < spans.length then some ⟨0, inside⟩ else none
      collectPbTraceChunks := fun traces _ _ => some (.v07
        [⟨"", ∅, traces.map (fun spans => ⟨⟨∅, spans⟩, 0⟩)⟩])
      encodedLen := fun payload => payload.chunks.length
      uriFromStr := some }
  errorRareSampleTracerDrop := false

/-- One of two dropped traces has an error: both count for the stats, one is sent. -/
theorem sampled_out_chunks_dropped_one :
    let failed : Span := { spanId := 1, error := 1 }
    let passed : Span := { spanId := 2 }
    let payloads : List TracerPayload := [⟨"", ∅, [⟨⟨∅, [failed]⟩, 0⟩, ⟨⟨∅, [passed]⟩, 0⟩]⟩]
    Exists fun info => keepingErrors.processTraces ChunkLibraries.plain
          ⟨⟨none, none, none, none, none, true⟩, true, "", 1, 1⟩ ⟨∅, ∅, none⟩ ⟨false, ∅⟩
          [[failed], [passed]] 0 none 0 () =
        some (some info, .v07 payloads, ()) ∧
      info.payload = .v07
        [⟨"", ∅, [⟨⟨∅, [stampErrorsSr 1 failed]⟩, 0⟩]⟩] := by
  intro failed passed payloads
  refine ⟨_, rfl, ?_⟩
  exact ((keepingErrors.sampled_out_chunks_dropped 0 () payloads).2.2 ChunkLibraries.plain
    ⟨⟨none, none, none, none, none, true⟩, true, "", 1, 1⟩ ⟨∅, ∅, none⟩ ⟨false, ∅⟩
    [[failed], [passed]] 0 none _ _ _ rfl rfl).2 (by decide) _ rfl

end ServerlessTraceProcessor
end Traces
end Bottlecap
