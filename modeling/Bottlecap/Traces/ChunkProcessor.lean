import Bottlecap.Foundations.Lists
import Bottlecap.Lifecycle.MessageTriggers

namespace Bottlecap
namespace Traces

open Foundations Lifecycle

/-!
# Processing of trace chunks

`ChunkProcessor::process` of `traces/trace_processor.rs` gets a chunk of spans and
the index of its root span.  It drops the whole chunk or single spans, completes the
tags of the others and attaches the span pointers of the invocation to the span at
the index of the root.  The index is that of the chunk as it came, and the spans
have moved by then.

Regular expressions, the obfuscation of a span and the JSON of span links are those
of other crates and are fields of `ChunkLibraries`.  Of the JSON only this is
assumed: writing links succeeds, and reading them back gives as many.
-/

structure SpanPointer where
  hash : String
  kind : String

structure SpanLink where
  traceId : UInt64
  traceIdHigh : UInt64
  spanId : UInt64
  attributes : Tags
  tracestate : String
  flags : UInt32

structure ChunkLibraries where
  regexNew : String -> Option (String -> Bool)
  obfuscatePbSpan : Span -> Span
  linksFromStr : String -> Option (List SpanLink)
  linksToString : List SpanLink -> Option String
  links_written : forall links, Exists fun text => linksToString links = some text ∧
    Exists fun read => linksFromStr text = some read ∧ read.length = links.length

/-- No pattern is valid, nothing is obfuscated, and the text of links has a character for
each, which says no more than that there is one. -/
def ChunkLibraries.plain : ChunkLibraries where
  regexNew := fun _ => none
  obfuscatePbSpan := id
  linksFromStr := fun text => some (text.toList.map fun _ => ⟨0, 0, 0, ∅, "", 0⟩)
  linksToString := fun links => some (String.ofList (links.map fun _ => 'l'))
  links_written := by
    intro links
    refine ⟨_, rfl, _, rfl, ?_⟩
    rw [List.length_map, String.toList_ofList, List.length_map]

/-! ## Span pointers -/

def newSpanLink (pointer : SpanPointer) : SpanLink where
  traceId := 0
  traceIdHigh := 0
  spanId := 0
  attributes := (((∅ : Tags).insert "link.kind" "span-pointer").insert "ptr.dir" "u").insert "ptr.hash"
    pointer.hash |>.insert "ptr.kind" pointer.kind
  tracestate := ""
  flags := 0

def spanLinksKey : String := "_dd.span_links"

def attachSpanPointersToMeta (libraries : ChunkLibraries) (spanPointers : Option (List SpanPointer))
    (metaTags : Tags) : Tags :=
  match spanPointers.filter (fun pointers => !pointers.isEmpty) with
  | none => metaTags
  | some pointers =>
    let existing := ((metaTags.lookup spanLinksKey).bind libraries.linksFromStr).getD []
    match libraries.linksToString (existing ++ pointers.map newSpanLink) with
    | none => metaTags
    | some json => metaTags.insert spanLinksKey json

/-! ## Filters -/

structure ChunkConfig where
  apmFilterTagsRequire : Option (List String)
  apmFilterTagsRegexRequire : Option (List String)
  apmFilterTagsReject : Option (List String)
  apmFilterTagsRegexReject : Option (List String)
  service : Option String
  traceAwsServiceRepresentationEnabled : Bool

/-- The property of a span that a key of a filter stands for. -/
def spanProperty (span : Span) (key : String) : Option String :=
  if key = "name" then some span.name
  else if key = "service" then some span.service
  else if key = "resource" then some span.resource
  else if key = "type" then some span.type
  else none

/-- A tag or else a property of that name has a value that is accepted. -/
def spanMatchesTag (accepts : String -> Bool) (span : Span) (key : String) : Bool :=
  (span.metaTags.lookup key).any accepts || (spanProperty span key).any accepts

def spanMatchesTagExact (span : Span) (key value : String) : Bool :=
  spanMatchesTag (fun found => found == value) span key

/-- An invalid pattern matches nothing. -/
def spanMatchesTagRegex (libraries : ChunkLibraries) (span : Span) (key value : String) : Bool :=
  match libraries.regexNew value with
  | none => false
  | some isMatch => spanMatchesTag isMatch span key

def spanHasKey (span : Span) (key : String) : Bool :=
  (span.metaTags.lookup key).isSome || (spanProperty span key).any (fun value => value != "")

/-- A filter `key:value`, or only a key. -/
def spanMatchesFilter (matchesTag : Span -> String -> String -> Bool) (span : Span)
    (filter : String) : Bool :=
  match splitOnce ':' filter.toList with
  | some (key, value) => matchesTag span (trim key) (trim value)
  | none => spanHasKey span (trim filter.toList)

def spanMatchesTagExactFilter (span : Span) (filter : String) : Bool :=
  spanMatchesFilter spanMatchesTagExact span filter

def spanMatchesTagRegexFilter (libraries : ChunkLibraries) (span : Span) (filter : String) : Bool :=
  spanMatchesFilter (spanMatchesTagRegex libraries) span filter

/-- Some required filter does not match. -/
def failsRequired (accepts : String -> Bool) (filters : Option (List String)) : Bool :=
  filters.any (fun filters => !filters.isEmpty && !filters.all accepts)

/-- Some rejecting filter matches. -/
def hitsRejected (accepts : String -> Bool) (filters : Option (List String)) : Bool :=
  filters.any (fun filters => !filters.isEmpty && filters.any accepts)

def filterSpanByTags (libraries : ChunkLibraries) (config : ChunkConfig) (span : Span) : Bool :=
  failsRequired (spanMatchesTagExactFilter span) config.apmFilterTagsRequire ||
    failsRequired (spanMatchesTagRegexFilter libraries span) config.apmFilterTagsRegexRequire ||
    hitsRejected (spanMatchesTagExactFilter span) config.apmFilterTagsReject ||
    hitsRejected (spanMatchesTagRegexFilter libraries span) config.apmFilterTagsRegexReject

def lambdaRuntimeUrlStart : String := "http://127.0.0.1:9001"

def lambdaExtensionUrlStart : String := "http://127.0.0.1:8124"

def lambdaStatsdUrlStart : String := "http://127.0.0.1:8125"

def dnsNonRoutableAddressStart : String := "0.0.0.0"

def dnsLocalHostAddressStart : String := "127.0.0.1"

def awsXrayDaemonAddressStart : String := "169.254.79.129"

def invocationSpanResource : String := "dd-tracer-serverless-span"

def isLambdaUrl (url : String) : Bool :=
  startsWith url lambdaRuntimeUrlStart || startsWith url lambdaExtensionUrlStart ||
    startsWith url lambdaStatsdUrlStart

def filterSpanFromLambdaLibraryOrRuntime (span : Span) : Bool :=
  (span.metaTags.lookup "http.url").any isLambdaUrl ||
    (match span.metaTags.lookup "tcp.remote.host", span.metaTags.lookup "tcp.remote.port" with
      | some tcpHost, some tcpPort => isLambdaUrl ("http://" ++ tcpHost ++ ":" ++ tcpPort)
      | _, _ => false) ||
    (span.metaTags.lookup "dns.address").any (fun dnsAddress =>
      startsWith dnsAddress dnsNonRoutableAddressStart ||
        startsWith dnsAddress dnsLocalHostAddressStart ||
        startsWith dnsAddress awsXrayDaemonAddressStart) ||
    span.resource == invocationSpanResource ||
    (span.name == "dns.lookup" || span.resource == dnsLocalHostAddressStart ||
      span.resource == dnsNonRoutableAddressStart)

/-! ## The processor -/

inductive StatsComputedBy where
  | backend
  | extension
  | tracer
  deriving DecidableEq

/-- The fields of a chunk that are read or written here. -/
structure TraceChunk where
  tags : Tags
  spans : List Span

structure ChunkProcessor where
  libraries : ChunkLibraries
  config : ChunkConfig
  tagsMap : Tags
  canonicalResourceName : Option String
  spanPointers : Option (List SpanPointer)
  statsComputedBy : StatsComputedBy

namespace ChunkProcessor

def decisionMakerTag : String := "_dd.p.dm"

def computeStatsKey : String := "_dd.compute_stats"

/-- The first span with a decision maker gives it to a chunk that has none. -/
def promoteDecisionMaker (chunk : TraceChunk) : TraceChunk :=
  if (chunk.tags.lookup decisionMakerTag).isSome then chunk
  else
    match chunk.spans.findSome? (fun span => span.metaTags.lookup decisionMakerTag) with
    | none => chunk
    | some decisionMaker => { chunk with tags := chunk.tags.insert decisionMakerTag decisionMaker }

/-- The body of the loop over the spans. -/
def processSpan (processor : ChunkProcessor) (span : Span) : Span :=
  let service :=
    if span.service == "aws.lambda" then (processor.tagsMap.lookup "service").getD span.service
    else span.service
  let baseService := getDefaultServiceName
    ((processor.config.service.or processor.canonicalResourceName).getD "aws.lambda") "aws.lambda"
    processor.config.traceAwsServiceRepresentationEnabled
  let metaTags :=
    if (span.metaTags.lookup "_inferred_span.tag_source").isSome &&
        (span.metaTags.lookup "_dd.base_service").isNone then
      span.metaTags.insert "_dd.base_service" baseService
    else span.metaTags
  let metaTags := extend metaTags processor.tagsMap
  let metaTags :=
    if processor.statsComputedBy = .backend then metaTags.insert computeStatsKey "1"
    else metaTags
  let metaTags := (metaTags.insert "origin" "lambda").insert "_dd.origin" "lambda"
  processor.libraries.obfuscatePbSpan { span with service := service, metaTags := metaTags }

def attachPointers (processor : ChunkProcessor) (span : Span) : Span :=
  { span with metaTags :=
      attachSpanPointersToMeta processor.libraries processor.spanPointers span.metaTags }

def keepsSpan (span : Span) : Bool := !filterSpanFromLambdaLibraryOrRuntime span

/-- The tag filters are asked about the root span, and drop the chunk. -/
def dropsChunk (processor : ChunkProcessor) (chunk : TraceChunk) (rootSpanIndex : Nat) : Bool :=
  chunk.spans[rootSpanIndex]?.any (filterSpanByTags processor.libraries processor.config)

/-- `ChunkProcessor::process` -/
def process (processor : ChunkProcessor) (chunk : TraceChunk) (rootSpanIndex : Nat) : TraceChunk :=
  let chunk := promoteDecisionMaker chunk
  if processor.dropsChunk chunk rootSpanIndex then { chunk with spans := [] }
  else
    let spans := (chunk.spans.filter keepsSpan).map processor.processSpan
    { chunk with spans := spans.modify rootSpanIndex processor.attachPointers }

/-! ## Where the pointers go -/

/-- The spans with the pointers attached to the one that stood at `rootSpanIndex`,
if it is kept. -/
def intendedSpans (processor : ChunkProcessor) (chunk : TraceChunk) (rootSpanIndex : Nat) :
    List Span :=
  if processor.dropsChunk chunk rootSpanIndex then []
  else
    keptWithChange keepsSpan processor.processSpan processor.attachPointers rootSpanIndex chunk.spans

def PointersOnRoot (processor : ChunkProcessor) (chunk : TraceChunk) (rootSpanIndex : Nat) : Prop :=
  (processor.process chunk rootSpanIndex).spans = processor.intendedSpans chunk rootSpanIndex

/-- There is something to attach. -/
def HasPointers (processor : ChunkProcessor) : Prop :=
  Exists fun pointers => processor.spanPointers = some pointers ∧ pointers ≠ []

theorem spans_promoteDecisionMaker (chunk : TraceChunk) :
    (promoteDecisionMaker chunk).spans = chunk.spans := by
  rw [promoteDecisionMaker]
  split
  · rfl
  · split <;> rfl

theorem spans_process (processor : ChunkProcessor) (chunk : TraceChunk) (rootSpanIndex : Nat) :
    (processor.process chunk rootSpanIndex).spans =
      if processor.dropsChunk chunk rootSpanIndex then []
      else ((chunk.spans.filter keepsSpan).map processor.processSpan).modify rootSpanIndex
        processor.attachPointers := by
  have same : processor.dropsChunk (promoteDecisionMaker chunk) rootSpanIndex =
      processor.dropsChunk chunk rootSpanIndex := by
    rw [dropsChunk, spans_promoteDecisionMaker, dropsChunk]
  simp only [process, same, spans_promoteDecisionMaker]
  split <;> rfl

theorem attachSpanPointersToMeta_some (libraries : ChunkLibraries) {pointers : List SpanPointer}
    (nonempty : pointers ≠ []) (metaTags : Tags) :
    Exists fun text =>
      attachSpanPointersToMeta libraries (some pointers) metaTags = metaTags.insert spanLinksKey text ∧
      Exists fun read => libraries.linksFromStr text = some read ∧ read.length =
        (((metaTags.lookup spanLinksKey).bind libraries.linksFromStr).getD []).length +
          pointers.length := by
  have some_ : (some pointers).filter (fun pointers => !pointers.isEmpty) = some pointers := by
    rw [Option.filter_some, if_pos]
    rw [Bool.not_eq_true', List.isEmpty_eq_false_iff]
    exact nonempty
  rcases libraries.links_written
    (((metaTags.lookup spanLinksKey).bind libraries.linksFromStr).getD [] ++
      pointers.map newSpanLink) with ⟨text, written, read, back, length_eq⟩
  refine ⟨text, ?_, read, back, ?_⟩
  · simp only [attachSpanPointersToMeta, some_, written]
  · rw [length_eq, List.length_append, List.length_map]

/-- Attached pointers show: there are more links than before. -/
theorem attachPointers_ne {processor : ChunkProcessor} (has : processor.HasPointers) (span : Span) :
    processor.attachPointers span ≠ span := by
  rcases has with ⟨pointers, given, nonempty⟩
  intro unchanged
  rcases attachSpanPointersToMeta_some processor.libraries nonempty span.metaTags with
    ⟨text, attached, read, back, length_eq⟩
  have tags : span.metaTags.insert spanLinksKey text = span.metaTags := by
    rw [<- attached, <- given]
    exact congrArg Span.metaTags unchanged
  have found : span.metaTags.lookup spanLinksKey = some text := by
    rw [<- tags]
    exact AList.lookup_insert span.metaTags
  rw [found, Option.bind_some, back, Option.getD_some] at length_eq
  have positive := List.length_pos_iff.mpr nonempty
  omega

theorem attachPointers_id {processor : ChunkProcessor} (none_ : ¬ processor.HasPointers) :
    processor.attachPointers = id := by
  funext span
  have filtered : processor.spanPointers.filter (fun pointers => !pointers.isEmpty) = none := by
    cases given : processor.spanPointers with
    | none => rfl
    | some pointers =>
      have empty : pointers = [] := by
        by_contra nonempty
        exact none_ ⟨pointers, given, nonempty⟩
      rw [empty]
      rfl
  simp only [attachPointers, attachSpanPointersToMeta, filtered, id_eq]

section Root

variable {processor : ChunkProcessor} {chunk : TraceChunk} {rootSpanIndex : Nat} {rootSpan : Span}
  (designates : chunk.spans[rootSpanIndex]? = some rootSpan)

theorem pointersOnRoot_iff_modify (stays : processor.dropsChunk chunk rootSpanIndex = false) :
    processor.PointersOnRoot chunk rootSpanIndex <->
      ((chunk.spans.filter keepsSpan).map processor.processSpan).modify rootSpanIndex
          processor.attachPointers =
        keptWithChange keepsSpan processor.processSpan processor.attachPointers rootSpanIndex
          chunk.spans := by
  rw [PointersOnRoot, spans_process, intendedSpans, stays, if_neg Bool.false_ne_true,
    if_neg Bool.false_ne_true]

include designates

/-- A root span that is kept gets the pointers if no span before it is dropped. -/
theorem pointersOnRoot_of_kept (has : processor.HasPointers)
    (stays : processor.dropsChunk chunk rootSpanIndex = false) (kept : keepsSpan rootSpan = true) :
    processor.PointersOnRoot chunk rootSpanIndex <->
      forall span, span ∈ chunk.spans.take rootSpanIndex -> keepsSpan span = true := by
  rcases split_of_getElem? designates with ⟨split, length_eq⟩
  have inside : (chunk.spans.take rootSpanIndex).countP keepsSpan <
      ((chunk.spans.filter keepsSpan).map processor.processSpan).length := by
    rw [List.length_map, <- List.countP_eq_length_filter]
    conv => rhs; rw [split]
    rw [List.countP_append, List.countP_cons_of_pos kept]
    omega
  rw [pointersOnRoot_iff_modify stays, keptWithChange_of_kept designates kept,
    modify_eq_modify_iff (attachPointers_ne has) inside, <- List.countP_eq_length, length_eq]
  exact eq_comm

/-- A root span that is dropped leaves its place to the next span, if there are as
many. -/
theorem pointersOnRoot_of_dropped (has : processor.HasPointers)
    (stays : processor.dropsChunk chunk rootSpanIndex = false)
    (dropped : keepsSpan rootSpan = false) :
    processor.PointersOnRoot chunk rootSpanIndex <->
      (chunk.spans.filter keepsSpan).length <= rootSpanIndex := by
  rw [pointersOnRoot_iff_modify stays,
    keptWithChange_of_dropped designates (Bool.eq_false_iff.mp dropped),
    modify_eq_self_iff (attachPointers_ne has), List.length_map]

theorem pointersOnRoot_of_not_has (none_ : ¬ processor.HasPointers) :
    processor.PointersOnRoot chunk rootSpanIndex := by
  cases drops : processor.dropsChunk chunk rootSpanIndex with
  | true => rw [PointersOnRoot, spans_process, intendedSpans, drops, if_pos rfl, if_pos rfl]
  | false =>
    rw [pointersOnRoot_iff_modify drops, attachPointers_id none_, List.modify_id]
    cases kept : keepsSpan rootSpan with
    | true => rw [keptWithChange_of_kept designates kept, List.modify_id]
    | false => rw [keptWithChange_of_dropped designates (Bool.eq_false_iff.mp kept)]

end Root

/-- The pointers go to the root span if it is kept, and to no span if it is not,
exactly if there are none, the chunk is dropped, no span in front of a kept root span
is dropped, or too few spans are kept for the index of a dropped one. -/
theorem pointers_on_root_iff (processor : ChunkProcessor) (chunk : TraceChunk)
    (rootSpanIndex : Nat) (rootSpan : Span)
    (designates : chunk.spans[rootSpanIndex]? = some rootSpan) :
    processor.PointersOnRoot chunk rootSpanIndex <->
      ¬ processor.HasPointers ∨
      filterSpanByTags processor.libraries processor.config rootSpan = true ∨
      (filterSpanFromLambdaLibraryOrRuntime rootSpan = false ∧
        forall span, span ∈ chunk.spans.take rootSpanIndex ->
          filterSpanFromLambdaLibraryOrRuntime span = false) ∨
      (filterSpanFromLambdaLibraryOrRuntime rootSpan = true ∧
        (chunk.spans.filter (fun span => !filterSpanFromLambdaLibraryOrRuntime span)).length <=
          rootSpanIndex) := by
  have drops : processor.dropsChunk chunk rootSpanIndex =
      filterSpanByTags processor.libraries processor.config rootSpan := by
    rw [dropsChunk, designates]
    rfl
  have keeps : forall span, keepsSpan span = true <->
      filterSpanFromLambdaLibraryOrRuntime span = false := by
    intro span
    rw [keepsSpan, Bool.not_eq_true']
  by_cases has : processor.HasPointers
  · cases filtered : filterSpanByTags processor.libraries processor.config rootSpan with
    | true =>
      rw [PointersOnRoot, spans_process, intendedSpans, drops, filtered]
      exact ⟨fun _ => Or.inr (Or.inl rfl), fun _ => rfl⟩
    | false =>
      rw [filtered] at drops
      cases dropped : filterSpanFromLambdaLibraryOrRuntime rootSpan with
      | true =>
        have notKept : keepsSpan rootSpan = false := by
          rw [keepsSpan, dropped]
          rfl
        rw [pointersOnRoot_of_dropped designates has drops notKept]
        constructor
        · intro few
          exact Or.inr (Or.inr (Or.inr ⟨rfl, few⟩))
        · rintro (none_ | wrong | ⟨wrong, _⟩ | ⟨_, few⟩)
          · exact absurd has none_
          · exact absurd wrong Bool.false_ne_true
          · exact absurd wrong.symm Bool.false_ne_true
          · exact few
      | false =>
        rw [pointersOnRoot_of_kept designates has drops ((keeps rootSpan).mpr dropped)]
        constructor
        · intro all
          exact Or.inr (Or.inr (Or.inl ⟨rfl, fun span member =>
            (keeps span).mp (all span member)⟩))
        · rintro (none_ | wrong | ⟨_, all⟩ | ⟨wrong, _⟩)
          · exact absurd has none_
          · exact absurd wrong Bool.false_ne_true
          · exact fun span member => (keeps span).mpr (all span member)
          · exact absurd wrong Bool.false_ne_true
  · exact ⟨fun _ => Or.inl has, fun _ => pointersOnRoot_of_not_has designates has⟩

/-- A processor with one pointer and no tag filters. -/
def onePointer : ChunkProcessor where
  libraries := ChunkLibraries.plain
  config := ⟨none, none, none, none, none, true⟩
  tagsMap := ∅
  canonicalResourceName := none
  spanPointers := some [⟨"e721375466d4116ab551213fdea08413", "aws.s3.object"⟩]
  statsComputedBy := .extension

def runtimeCall : Span :=
  { spanId := 3
    metaTags := (∅ : Tags).insert "http.url" "http://127.0.0.1:9001/2018-06-01/runtime" }

def invocationSpan : Span := { spanId := 1, name := "aws.lambda" }

/-- A call of the runtime, the root span and a child. -/
def runtimeCallFirst : TraceChunk where
  tags := ∅
  spans := [runtimeCall, invocationSpan, { spanId := 2, parentId := 1 }]

/-- The root span and a call of the runtime after it. -/
def runtimeCallLast : TraceChunk where
  tags := ∅
  spans := [invocationSpan, runtimeCall]

theorem pointers_on_root_iff_first :
    runtimeCallLast.spans[0]? = some invocationSpan ∧
      onePointer.PointersOnRoot runtimeCallLast 0 := by
  refine ⟨rfl, ?_⟩
  apply (pointers_on_root_iff onePointer runtimeCallLast 0 invocationSpan rfl).mpr
  refine Or.inr (Or.inr (Or.inl ⟨by decide, ?_⟩))
  intro span member
  exact absurd member List.not_mem_nil

/-- The call of the runtime is dropped, and the pointer goes to the child. -/
theorem pointers_on_child : ¬ onePointer.PointersOnRoot runtimeCallFirst 1 := by
  intro onRoot
  have designates : runtimeCallFirst.spans[1]? = some invocationSpan := rfl
  have has : onePointer.HasPointers := ⟨_, rfl, List.cons_ne_nil _ _⟩
  have stays : onePointer.dropsChunk runtimeCallFirst 1 = false := rfl
  have kept : keepsSpan invocationSpan = true := by decide
  have all := (pointersOnRoot_of_kept designates has stays kept).mp onRoot
  exact absurd (all runtimeCall List.mem_cons_self) (by decide)

end ChunkProcessor
end Traces
end Bottlecap
