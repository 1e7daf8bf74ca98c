import Mathlib.Data.List.AList
import Mathlib.Data.Rat.Floor
import Bottlecap.Foundations.Binary64
import Bottlecap.Foundations.Json
import Bottlecap.Foundations.Text

namespace Bottlecap
namespace Lifecycle

open Foundations

/-!
# Spans and their tags

The spans the extension builds, the trace context it extracts, and the tags it
derives from payloads (`lifecycle/invocation/mod.rs`).  Identifiers are 64-bit
words, of the extracted 128-bit trace id the Datadog protocol uses the lower
half.  Timestamps and durations, `i64` nanoseconds in the source, are integers;
an `f64` is rational.

What the source takes from other crates is a field of `Libraries`: JSON and
base64 codecs, float texts, Unicode lower case and the extraction of a trace
context from a carrier.
-/

/-- A `HashMap<String, String>`. -/
abbrev Tags := AList (fun _ : String => String)

/-- `HashMap::extend`: the new entries win. -/
def extend {Entry : Type} (old new : AList (fun _ : String => Entry)) :
    AList (fun _ : String => Entry) :=
  new ∪ old

/-- A span of the trace protocol. -/
structure Span where
  service : String := ""
  name : String := ""
  resource : String := ""
  traceId : UInt64 := 0
  spanId : UInt64 := 0
  parentId : UInt64 := 0
  start : Int := 0
  duration : Int := 0
  error : Int := 0
  metaTags : Tags := ∅
  metrics : AList (fun _ : String => Rat) := ∅
  type : String := ""
  metaStruct : AList (fun _ : String => List UInt8) := ∅

/-- The trace context found in a carrier. -/
structure SpanContext where
  traceId : BitVec 128
  spanId : UInt64
  tags : Tags
  samplingPriority : Option Int := none

/-- `sc.trace_id as u64` -/
def SpanContext.lowTraceId (context : SpanContext) : UInt64 :=
  UInt64.ofBitVec (context.traceId.truncate 64)

/-- The behaviour of the crates that the lifecycle code calls. -/
structure Libraries where
  jsonToString : Value -> Option String
  jsonFromStr : String -> Option Value
  floatToString : Rat -> String
  parseF64 : String -> Option Rat
  base64ToString : String -> Option String
  toLowercase : String -> String
  extractFromMap : Tags -> Option SpanContext
  extractFromJson : Value -> Option SpanContext

def createEmptySpan (name resource service : String) : Span :=
  { name := name
    resource := resource
    service := service
    type := "serverless"
    metaTags := (∅ : Tags).insert "span.kind" "server" }

/-- `as i64` from a float: truncated toward zero and saturated. -/
def castI64 (value : Rat) : Int :=
  let whole := if 0 <= value then value.floor else value.ceil
  max (-(2 ^ 63)) (min (2 ^ 63 - 1) whole)

/-- `f64::round`: halves away from zero. -/
def roundHalfAway (value : Rat) : Rat :=
  if 0 <= value then (value + 1 / 2).floor else (value - 1 / 2).ceil

def msToNs : Rat := 1000000

/-! ## Tags from a payload -/

def maxTagChars : Nat := 4096

def redactableKeys : List String :=
  ["password", "passwd", "pwd", "secret", "token", "authorization", "x-authorization", "api_key"]

def truncateTag (text : String) : String := String.ofList (text.toList.take maxTagChars)

def redactValue (key value : String) : String :=
  let last := String.ofList (((splitAtChar '.' key.toList).getLast?).getD [])
  if last ∈ redactableKeys then "redacted" else value

def numberToString (libraries : Libraries) : Number -> String
  | .posInt value => toString value.toNat
  | .negInt value => toString value
  | .float value => libraries.floatToString value

/-- `get_metadata_from_value`.  The argument is `max_depth - depth`: every
recursive call of the source is one deeper, and at the limit the value is
serialized. -/
def getMetadataFromValue (libraries : Libraries) : Nat -> String -> Value -> Tags
  | _, key, .null => (∅ : Tags).insert key "null"
  | 0, key, value =>
    match libraries.jsonToString value with
    | some text => (∅ : Tags).insert key (truncateTag text)
    | none => ∅
  | remaining + 1, key, .string text =>
    match libraries.jsonFromStr text with
    | some parsed => getMetadataFromValue libraries remaining key parsed
    | none => (∅ : Tags).insert key (redactValue key (truncateTag text))
  | _ + 1, key, .number value => (∅ : Tags).insert key (numberToString libraries value)
  | _ + 1, key, .bool value => (∅ : Tags).insert key (toString value)
  | remaining + 1, key, .object members =>
    members.foldl (fun metadata member => extend metadata
      (getMetadataFromValue libraries remaining (key ++ "." ++ member.1) member.2)) ∅
  | _ + 1, key, .array [] => (∅ : Tags).insert key "[]"
  | remaining + 1, key, .array (first :: rest) =>
    (first :: rest).zipIdx.foldl (fun metadata item => extend metadata
      (getMetadataFromValue libraries remaining (key ++ "." ++ toString item.2) item.1)) ∅

/-- `DATADOG_HIGHER_ORDER_TRACE_ID_BITS_KEY` -/
def higherOrderTraceIdBitsKey : String := "_dd.p.tid"

/-- `extract_propagation_tags`: the `_dd.p.` pairs of a comma separated list. -/
def extractPropagationTags (text : String) : Tags :=
  (splitAtChar ',' text.toList).foldl (fun tags pair =>
    match splitOnce '=' pair with
    | some (key, value) =>
      if startsWith (String.ofList key) "_dd.p." then
        tags.insert (String.ofList key) (String.ofList value)
      else tags
    | none => tags) ∅

end Lifecycle
end Bottlecap
