import Bottlecap.Lifecycle.Identification
import Bottlecap.Traces.Propagation

namespace Bottlecap
namespace Lifecycle

open Foundations Traces

/-!
# Answering a start-invocation request

`handle_start_invocation` of `lifecycle/listener.rs` extracts a trace context
from the request and hands it to the tracer in the headers of the response.  A
header value is parsed from a text, and a text that does not parse panics.  The
trace id and the sampling priority are numbers; the `_dd.p.tid` of the context is
a text of the source that the context was extracted from.
-/

/-- A request after its body was buffered.  A header value is none if it is not
a text, and the body is none if it is not JSON. -/
structure StartRequest where
  headers : List (String × Option String)
  body : Option Value

structure StartResponse where
  status : Nat
  headers : List (String × String)
  body : String

inductive HeaderPanic where
  | failedToParseTraceId
  | failedToParseSamplingPriority
  | failedToParseTags
  deriving DecidableEq

/-- The state of the listener, as far as it answers requests. -/
structure Listener where
  env : TriggerEnv
  formats : TriggerFormats
  propagator : CompositePropagator
  chars : HeaderChars

def headersToMap (headers : List (String × Option String)) : Tags :=
  headers.foldl (fun tags header => tags.insert header.1 (header.2.getD "")) ∅

/-- `text.parse().expect(..)` at `HeaderValue` -/
def expectHeader (chars : HeaderChars) (panic : HeaderPanic) (text : String) :
    Except HeaderPanic String :=
  if chars.legal text then Except.ok text else Except.error panic

/-- A header that is inserted only with a value. -/
def expectHeaderIfSome (chars : HeaderChars) (panic : HeaderPanic) (name : String) :
    Option String -> Except HeaderPanic (List (String × String))
  | some text => (expectHeader chars panic text).map (fun value => [(name, value)])
  | none => Except.ok []

def injectSpanContextToHeaders (chars : HeaderChars) (context : SpanContext) :
    Except HeaderPanic (List (String × String)) := do
  let traceId <- expectHeader chars .failedToParseTraceId
    (toString context.lowTraceId.toNat)
  let priority <- expectHeaderIfSome chars .failedToParseSamplingPriority
    "x-datadog-sampling-priority" (context.samplingPriority.map toString)
  let tags <- expectHeaderIfSome chars .failedToParseTags "x-datadog-tags"
    ((context.tags.lookup higherOrderTraceIdBitsKey).map
      (fun bits => higherOrderTraceIdBitsKey ++ "=" ++ bits))
  Except.ok (("x-datadog-trace-id", traceId) :: priority ++ tags)

namespace Listener

variable (listener : Listener)

def payload (request : StartRequest) : Value := request.body.getD (.object [])

def extractContext (request : StartRequest) : Option SpanContext :=
  extractSpanContext (listener.propagator.libraries listener.env.libraries)
    (triggersOf listener.env listener.formats) (headersToMap request.headers) (payload request)

def handleStartInvocation (request : StartRequest) : Except HeaderPanic StartResponse :=
  match listener.extractContext request with
  | some context =>
    (injectSpanContextToHeaders listener.chars context).map
      (fun headers => ⟨200, headers, "\x7b\x7d"⟩)
  | none => Except.ok ⟨200, [], "\x7b\x7d"⟩

end Listener

/-! ## The text of the client -/

/-- The value of the last pair with a key in a comma separated list. -/
def lastPair (key : String) (text : String) : Option String :=
  (splitAtChar ',' text.toList).reverse.findSome? (fun pair =>
    match splitOnce '=' pair with
    | some (name, value) => if String.ofList name = key then some (String.ofList value) else none
    | none => none)

/-- The `_dd.p.tid` that a Lambda put in a Step Functions context, in the tags
beside its trace id. -/
def StepFunctionEvent.clientTid (event : StepFunctionEvent) : Option String :=
  match event.traceId, event.traceTags with
  | some _, some traceTags => lastPair higherOrderTraceIdBitsKey traceTags
  | _, _ => none

/-- A place a context may come from: whether there is one, and the text that the
client gives there for its `_dd.p.tid`. -/
structure TidSource where
  found : Bool
  clientText : Option String

def TidSource.ofCarrier (propagator : CompositePropagator) (extractor : Extractor) : TidSource where
  found := (propagator.inner.extract extractor).isSome
  clientText :=
    if propagator.tracePropagationHttpBaggageEnabled then
      baggageOf extractor higherOrderTraceIdBitsKey
    else none

def TidSource.ofEvent : TriggerEvent -> TidSource
  | .stepFunctionEvent event => { found := true, clientText := event.clientTid }
  | .sqsRecord record =>
    { found := (extractTraceContextFromAwsTraceHeader record.attributes.awsTraceHeader).isSome
      clientText := none }
  | _ => { found := false, clientText := none }

namespace Listener

variable (listener : Listener)

/-- The sources in the order they are asked: the carrier of the trigger, the
context generated for it, the headers in the payload and those of the request. -/
def sources (request : StartRequest) : List TidSource :=
  let payload := payload request
  let event := TriggerEvent.fromValue listener.env listener.formats payload
  let ofJson := fun value => TidSource.ofCarrier listener.propagator
    (jsonCarrier listener.propagator.toLowercase value)
  let ofMap := fun tags => TidSource.ofCarrier listener.propagator
    (listener.propagator.mapCarrier tags)
  ((event.identified listener.env payload).getTriggerType.toList.flatMap
      (fun trigger => [ofMap trigger.getCarrier, TidSource.ofEvent event])) ++
    (((payload.get "request").bind (Value.get "headers")).toList.map ofJson ++
      ((payload.get "headers").toList.map ofJson ++ [ofMap (headersToMap request.headers)]))

/-- The text of the client that ends up in the header: that of the first source
with a context. -/
def clientTid (request : StartRequest) : Option String :=
  ((listener.sources request).find? TidSource.found).bind TidSource.clientText

end Listener

/-! ## Where a context has its `_dd.p.tid` from -/

/-- The context has the text of the client if the source gives one, and
hexadecimal digits otherwise. -/
structure TidFrom (source : TidSource) (context : SpanContext) : Prop where
  given : forall text, source.clientText = some text ->
    context.tags.lookup higherOrderTraceIdBitsKey = some text
  own : source.clientText = none -> forall text,
    context.tags.lookup higherOrderTraceIdBitsKey = some text -> HexText text

/-- The context is that of the first source that has one. -/
def FirstFrom (sources : List TidSource) (context : Option SpanContext) : Prop :=
  match context with
  | none => sources.find? TidSource.found = none
  | some context => Exists fun source =>
    sources.find? TidSource.found = some source ∧ TidFrom source context

theorem firstFrom_nil : FirstFrom [] none := rfl

theorem FirstFrom.or {sources others : List TidSource} {context other : Option SpanContext}
    (first : FirstFrom sources context) (second : FirstFrom others other) :
    FirstFrom (sources ++ others) (context.or other) := by
  cases context with
  | some =>
    obtain ⟨source, found, agrees⟩ := first
    refine ⟨source, ?_, agrees⟩
    rw [List.find?_append, found]
    rfl
  | none =>
    have missed : sources.find? TidSource.found = none := first
    cases other with
    | none =>
      have alsoMissed : others.find? TidSource.found = none := second
      change (sources ++ others).find? TidSource.found = none
      rw [List.find?_append, missed, alsoMissed]
      rfl
    | some =>
      obtain ⟨source, found, agrees⟩ := second
      refine ⟨source, ?_, agrees⟩
      rw [List.find?_append, missed, found]
      rfl

/-- A single source. -/
theorem firstFrom_singleton {source : TidSource} {context : Option SpanContext}
    (found : source.found = context.isSome)
    (agrees : forall value, context = some value -> TidFrom source value) :
    FirstFrom [source] context := by
  cases context with
  | none =>
    change [source].find? TidSource.found = none
    rw [List.find?_singleton, found]
    rfl
  | some context =>
    refine ⟨source, ?_, agrees context rfl⟩
    rw [List.find?_singleton, found]
    rfl

/-- A source that exists only with its carrier. -/
theorem firstFrom_bind {Carrier : Type} {source : Carrier -> TidSource}
    {extract : Carrier -> Option SpanContext} (carrier : Option Carrier)
    (each : forall value, FirstFrom [source value] (extract value)) :
    FirstFrom (carrier.toList.map source) (carrier.bind extract) := by
  cases carrier with
  | none => exact firstFrom_nil
  | some value => exact each value

theorem firstFrom_ofCarrier (propagator : CompositePropagator) (extractor : Extractor) :
    FirstFrom [TidSource.ofCarrier propagator extractor] (propagator.extract extractor) := by
  apply firstFrom_singleton
  · exact (Option.isSome_map).symm
  · intro context extracted
    obtain ⟨inner, innerEq, rfl⟩ := Option.map_eq_some_iff.mp extracted
    have hexadecimal : forall text,
        (preserveHighOrderTraceIdBits inner).tags.lookup higherOrderTraceIdBitsKey = some text ->
          HexText text := by
      intro text found
      exact hexText_preserveHighOrderTraceIdBits
        (fun text => propagator.inner.hexadecimal extractor inner text innerEq) found
    cases enabled : propagator.tracePropagationHttpBaggageEnabled with
    | false =>
      refine ⟨?_, ?_⟩
      · intro text given
        simp only [TidSource.ofCarrier, enabled, Bool.false_eq_true, if_false, reduceCtorEq]
          at given
      · intro _ text found
        exact hexadecimal text found
    | true =>
      refine ⟨?_, ?_⟩
      · intro text given
        simp only [TidSource.ofCarrier, enabled, if_true] at given
        simp only [if_true, lookup_attachBaggage, given, Option.some_or]
      · intro ungiven text found
        simp only [TidSource.ofCarrier, enabled, if_true] at ungiven
        simp only [if_true, lookup_attachBaggage, ungiven] at found
        exact hexadecimal text found

/-- The propagation tags keep the last pair of a key. -/
theorem lookup_extractPropagationTags (key text : String) (own : startsWith key "_dd.p." = true) :
    (extractPropagationTags text).lookup key = lastPair key text := by
  rw [extractPropagationTags, lastPair]
  induction splitAtChar ',' text.toList using List.reverseRecOn with
  | nil => rfl
  | append_singleton _ pair ih =>
    rw [List.foldl_append, List.foldl_cons, List.foldl_nil, List.reverse_append,
      List.reverse_singleton, List.singleton_append, List.findSome?_cons]
    cases split : splitOnce '=' pair with
    | none => exact ih
    | some halves =>
      obtain ⟨name, value⟩ := halves
      dsimp only
      by_cases same : String.ofList name = key
      · rw [if_pos same, same, if_pos own, AList.lookup_insert]
      · rw [if_neg same]
        split
        · rw [AList.lookup_insert_ne (Ne.symm same)]
          exact ih
        · exact ih

namespace StepFunctionEvent

theorem tidFrom_of_generated (env : TriggerEnv) {event : StepFunctionEvent}
    (generated : event.traceId = none ∨ event.traceTags = none) :
    TidFrom { found := true, clientText := event.clientTid } (event.getSpanContext env) := by
  refine ⟨?_, ?_⟩
  · intro text given
    have ungiven : event.clientTid = none := by
      rw [clientTid]
      rcases generated with unset | unset
      · rw [unset]
      · rw [unset]
        cases event.traceId <;> rfl
    rw [ungiven] at given
    cases given
  · intro _ text found
    change (event.traceIdAndTags env).2.lookup higherOrderTraceIdBitsKey = some text at found
    rw [traceIdAndTags_of_generated env generated] at found
    cases found
    exact hexText_of_toDigits _

theorem tidFrom_getSpanContext (env : TriggerEnv) (event : StepFunctionEvent) :
    TidFrom { found := true, clientText := event.clientTid } (event.getSpanContext env) := by
  cases traceId : event.traceId with
  | none => exact tidFrom_of_generated env (Or.inl traceId)
  | some =>
    cases traceTags : event.traceTags with
    | none => exact tidFrom_of_generated env (Or.inr traceTags)
    | some tagText =>
      have looked : (event.getSpanContext env).tags.lookup higherOrderTraceIdBitsKey =
          event.clientTid := by
        change (event.traceIdAndTags env).2.lookup higherOrderTraceIdBitsKey = _
        simp only [traceIdAndTags, clientTid, traceId, traceTags]
        exact lookup_extractPropagationTags _ tagText (by decide)
      refine ⟨?_, ?_⟩
      · intro text given
        exact looked.trans given
      · intro ungiven text found
        change event.clientTid = none at ungiven
        rw [looked, ungiven] at found
        cases found

end StepFunctionEvent

theorem tags_of_awsTraceHeader {header : Option String} {context : SpanContext}
    (extracted : extractTraceContextFromAwsTraceHeader header = some context) :
    context.tags = ∅ := by
  obtain ⟨value, _, rest⟩ := Option.bind_eq_some_iff.mp extracted
  split at rest
  · cases rest
  · obtain ⟨parts, _, rest⟩ := Option.bind_eq_some_iff.mp rest
    obtain ⟨traceId, _, rest⟩ := Option.bind_eq_some_iff.mp rest
    obtain ⟨parentId, _, rest⟩ := Option.bind_eq_some_iff.mp rest
    split at rest
    · cases rest
    · cases rest
      rfl

theorem firstFrom_ofEvent (env : TriggerEnv) (payload : Value) (event : TriggerEvent) :
    FirstFrom [TidSource.ofEvent event]
      (event.identified env payload).extractGeneratedSpanContext := by
  cases event with
  | stepFunctionEvent event =>
    apply firstFrom_singleton rfl
    intro context generated
    cases generated
    exact event.tidFrom_getSpanContext env
  | sqsRecord =>
    apply firstFrom_singleton rfl
    intro context extracted
    have tags := tags_of_awsTraceHeader extracted
    refine ⟨fun text given => (by cases given), ?_⟩
    intro _ text found
    rw [tags] at found
    cases found
  | _ => exact firstFrom_singleton rfl (fun _ none => nomatch none)

namespace Listener

variable (listener : Listener)

/-- The carrier of the trigger, and then the context generated for it. -/
theorem firstFrom_inferred (payload : Value) (event : TriggerEvent)
    (identified : TriggerEvent.fromValue listener.env listener.formats payload = event) :
    FirstFrom ((event.identified listener.env payload).getTriggerType.toList.flatMap
        (fun trigger => [TidSource.ofCarrier listener.propagator
          (listener.propagator.mapCarrier trigger.getCarrier), TidSource.ofEvent event]))
      (extractInferredSpanContext (listener.propagator.libraries listener.env.libraries)
        (triggersOf listener.env listener.formats) payload) := by
  have asked : (triggersOf listener.env listener.formats).fromValue payload =
      event.identified listener.env payload := by
    rw [<- identified]
    rfl
  unfold extractInferredSpanContext
  rw [asked]
  dsimp only
  cases (event.identified listener.env payload).getTriggerType with
  | none => exact firstFrom_nil
  | some trigger =>
    have carried := firstFrom_ofCarrier listener.propagator
      (listener.propagator.mapCarrier trigger.getCarrier)
    exact carried.or (firstFrom_ofEvent listener.env payload event)

theorem firstFrom_sources (request : StartRequest) :
    FirstFrom (listener.sources request) (listener.extractContext request) := by
  refine FirstFrom.or ?_ (FirstFrom.or ?_ (FirstFrom.or ?_ ?_))
  · exact listener.firstFrom_inferred (payload request) _ rfl
  · exact firstFrom_bind _ (fun value => firstFrom_ofCarrier listener.propagator _)
  · exact firstFrom_bind _ (fun value => firstFrom_ofCarrier listener.propagator _)
  · exact firstFrom_ofCarrier listener.propagator _

end Listener

/-! ## The headers -/

theorem expectHeader_of_legal {chars : HeaderChars} {text : String} (panic : HeaderPanic)
    (legal : chars.legal text = true) : expectHeader chars panic text = Except.ok text :=
  if_pos legal

theorem expectHeaderIfSome_eq (chars : HeaderChars) (panic : HeaderPanic) (name : String)
    (text : Option String) :
    expectHeaderIfSome chars panic name text =
      if text.all chars.legal then Except.ok (text.toList.map (fun value => (name, value)))
      else Except.error panic := by
  cases text with
  | none => rfl
  | some =>
    rw [expectHeaderIfSome, expectHeader, Option.all_some]
    split <;> rfl

/-- The numbers always parse, so it comes down to the text of the tag. -/
theorem injectSpanContextToHeaders_isOk_iff (chars : HeaderChars) (context : SpanContext) :
    (injectSpanContextToHeaders chars context).isOk = true <->
      (context.tags.lookup higherOrderTraceIdBitsKey).all chars.legal = true := by
  have priority : (context.samplingPriority.map toString).all chars.legal = true := by
    cases context.samplingPriority with
    | none => rfl
    | some number => exact chars.legal_intToString number
  have tag : ((context.tags.lookup higherOrderTraceIdBitsKey).map
      (fun bits => higherOrderTraceIdBitsKey ++ "=" ++ bits)).all chars.legal =
        (context.tags.lookup higherOrderTraceIdBitsKey).all chars.legal := by
    cases context.tags.lookup higherOrderTraceIdBitsKey with
    | none => rfl
    | some =>
      have key : chars.legal (higherOrderTraceIdBitsKey ++ "=") = true :=
        chars.legal_of_literal _ (by decide)
      rw [Option.map_some, Option.all_some, Option.all_some, chars.legal_append, key,
        Bool.true_and]
  rw [injectSpanContextToHeaders]
  rw [expectHeader_of_legal _ (chars.legal_natToString _), expectHeaderIfSome_eq, priority,
    expectHeaderIfSome_eq, tag]
  cases (context.tags.lookup higherOrderTraceIdBitsKey).all chars.legal with
  | true => exact iff_of_true rfl rfl
  | false => exact iff_of_false (nomatch ·) (nomatch ·)

namespace Listener

variable (listener : Listener)

theorem handleStartInvocation_isOk_iff (request : StartRequest) :
    (listener.handleStartInvocation request).isOk = true <->
      forall context, listener.extractContext request = some context ->
        (context.tags.lookup higherOrderTraceIdBitsKey).all listener.chars.legal = true := by
  rw [handleStartInvocation]
  cases listener.extractContext request with
  | none => exact iff_of_true rfl (fun context impossible => nomatch impossible)
  | some context =>
    have same : ((injectSpanContextToHeaders listener.chars context).map
        (fun headers => (⟨200, headers, "\x7b\x7d"⟩ : StartResponse))).isOk =
          (injectSpanContextToHeaders listener.chars context).isOk := by
      cases injectSpanContextToHeaders listener.chars context <;> rfl
    rw [same, injectSpanContextToHeaders_isOk_iff]
    exact ⟨fun legal other found => Option.some.inj found ▸ legal, fun all => all context rfl⟩

/-- A start-invocation request is answered, without a panic, exactly if the text
that the client gives for `_dd.p.tid`, in the first source a context is found in,
is a legal header value: the last such pair of the `x-datadog-tags` of a Step
Functions context, or with baggage enabled the baggage item of that name. -/
theorem start_invocation_answered_iff (request : StartRequest) :
    (listener.handleStartInvocation request).isOk = true <->
      forall text, listener.clientTid request = some text -> listener.chars.legal text = true := by
  have first := listener.firstFrom_sources request
  rw [listener.handleStartInvocation_isOk_iff]
  rw [clientTid]
  cases extracted : listener.extractContext request with
  | none =>
    rw [extracted] at first
    have missed : (listener.sources request).find? TidSource.found = none := first
    rw [missed]
    exact iff_of_true (fun context impossible => nomatch impossible)
      (fun text impossible => nomatch impossible)
  | some context =>
    rw [extracted] at first
    obtain ⟨source, found, agrees⟩ := first
    rw [found, Option.bind_some]
    cases given : source.clientText with
    | some text =>
      have tid := agrees.given text given
      constructor
      · intro legal other same
        cases same
        have whole := legal context rfl
        rwa [tid] at whole
      · intro legal other same
        cases same
        rw [tid]
        exact legal text rfl
    | none =>
      refine iff_of_true ?_ (fun text impossible => nomatch impossible)
      intro other same
      cases same
      cases own : context.tags.lookup higherOrderTraceIdBitsKey with
      | none => rfl
      | some text => exact listener.chars.legal_of_hexText (agrees.own given text own)

end Listener

/-- A listener with a propagator that finds no context. -/
def Listener.plain : Listener where
  env := TriggerEnv.plain
  formats := TriggerFormats.plain
  propagator :=
    { inner := ⟨fun _ => none, fun _ _ _ impossible _ => nomatch impossible⟩
      tracePropagationHttpBaggageEnabled := false
      toLowercase := id
      mapCarrier := fun _ => ⟨[], fun _ => none⟩ }
  chars := HeaderChars.http

/-- A Step Functions context with a trace id and propagation tags. -/
def StartRequest.ofStepFunctions (tags : String) : StartRequest where
  headers := []
  body := some (.object [
    ("Execution", .object [("Id", .string "arn"),
      ("RedriveCount", .number (.posInt 0))]),
    ("State", .object [("Name", .string "state"), ("EnteredTime", .string "now"),
      ("RetryCount", .number (.posInt 0))]),
    ("x-datadog-trace-id", .string "1"), ("x-datadog-tags", .string tags)])

/-- A line break in the tags of a Step Functions context. -/
theorem line_break_in_tags_panics :
    ¬ forall (listener : Listener) (request : StartRequest),
      (listener.handleStartInvocation request).isOk = true := by
  intro always
  have answered := always Listener.plain (StartRequest.ofStepFunctions "_dd.p.tid=a\nb")
  have panics : (Listener.plain.handleStartInvocation
      (StartRequest.ofStepFunctions "_dd.p.tid=a\nb")).isOk = false := by
    decide +kernel
  cases answered

end Lifecycle
end Bottlecap
