import Mathlib.Data.List.Induction
import Bottlecap.Foundations.HeaderText
import Bottlecap.Lifecycle.SpanInferrer

namespace Bottlecap
namespace Traces

open Foundations Lifecycle

/-!
# Trace context from a carrier

`traces/propagation/` wraps the propagator of dd-trace: it keeps the upper half
of a 128-bit trace id in a tag, and turns the `ot-baggage-` keys of the carrier
into tags.  The wrapped propagator is a parameter; a context it finds has, if any,
a hexadecimal `_dd.p.tid`.
-/

/-- The trait `Extractor`. -/
structure Extractor where
  keys : List String
  get : String -> Option String

/-- `JsonCarrier` -/
def jsonCarrier (toLowercase : String -> String) (value : Value) : Extractor where
  keys := (value.asObject.getD []).map Prod.fst
  get := fun key => (value.get (toLowercase key)).bind Value.asStr

/-- The propagator of dd-trace, with none for every result but `Continue`. -/
structure InnerPropagator where
  extract : Extractor -> Option SpanContext
  hexadecimal : forall extractor context text, extract extractor = some context ->
    context.tags.lookup higherOrderTraceIdBitsKey = some text -> HexText text

/-- `DatadogCompositePropagator`, and how the carriers of dd-trace look to it. -/
structure CompositePropagator where
  inner : InnerPropagator
  tracePropagationHttpBaggageEnabled : Bool
  toLowercase : String -> String
  mapCarrier : Tags -> Extractor

def baggageStart : String := "ot-baggage-"

/-- `str::to_ascii_lowercase` -/
def toAsciiLowercase (text : String) : String := String.ofList (text.toList.map Char.toLower)

/-- The format `{high:016x}`. -/
def paddedHex (number : UInt64) : String :=
  let digits := Nat.toDigits 16 number.toNat
  String.ofList (List.replicate (16 - digits.length) '0' ++ digits)

def preserveHighOrderTraceIdBits (context : SpanContext) : SpanContext :=
  let high := UInt64.ofBitVec ((context.traceId >>> 64).truncate 64)
  if high ≠ 0 ∧ (context.tags.lookup higherOrderTraceIdBitsKey).isNone then
    { context with tags := context.tags.insert higherOrderTraceIdBitsKey (paddedHex high) }
  else context

/-- The tag that a key of the carrier becomes, if it is a baggage key. -/
def baggageItem (key : String) : Option String :=
  let lower := (toAsciiLowercase key).toList
  if baggageStart.toList.isPrefixOf lower then
    some (String.ofList (lower.drop baggageStart.length))
  else none

def attachBaggage (extractor : Extractor) (context : SpanContext) : SpanContext :=
  { context with
    tags := extractor.keys.foldl (fun tags key =>
      match baggageItem key with
      | some item => tags.insert item ((extractor.get key).getD "")
      | none => tags) context.tags }

namespace CompositePropagator

def extract (propagator : CompositePropagator) (extractor : Extractor) : Option SpanContext :=
  (propagator.inner.extract extractor).map (fun context =>
    let context := preserveHighOrderTraceIdBits context
    if propagator.tracePropagationHttpBaggageEnabled then attachBaggage extractor context
    else context)

/-- The libraries of the lifecycle code with this propagator in place. -/
def libraries (propagator : CompositePropagator) (others : Libraries) : Libraries :=
  { others with
    extractFromMap := fun tags => propagator.extract (propagator.mapCarrier tags)
    extractFromJson := fun value => propagator.extract (jsonCarrier propagator.toLowercase value) }

end CompositePropagator

/-! ## The upper half of the trace id -/

theorem hexText_paddedHex (number : UInt64) : HexText (paddedHex number) := by
  intro char member
  rw [paddedHex, String.toList_ofList, List.mem_append] at member
  rcases member with padding | digit
  · rw [(List.mem_replicate.mp padding).2]
    rfl
  · exact hexText_of_toDigits number.toNat char (by rwa [String.toList_ofList])

/-- What the wrapper adds to a hexadecimal tag, or to none, is hexadecimal. -/
theorem hexText_preserveHighOrderTraceIdBits {context : SpanContext} {text : String}
    (hexadecimal : forall text, context.tags.lookup higherOrderTraceIdBitsKey = some text ->
      HexText text)
    (found : (preserveHighOrderTraceIdBits context).tags.lookup higherOrderTraceIdBitsKey =
      some text) : HexText text := by
  unfold preserveHighOrderTraceIdBits at found
  dsimp only at found
  split at found
  · rw [AList.lookup_insert] at found
    cases found
    exact hexText_paddedHex _
  · exact hexadecimal text found

/-- The value of the last key of the carrier that sets a tag. -/
def baggageOf (extractor : Extractor) (tag : String) : Option String :=
  (extractor.keys.reverse.find? (fun key => baggageItem key = some tag)).map
    (fun key => (extractor.get key).getD "")

/-- A tag after the baggage is attached: the last key that sets it wins. -/
theorem lookup_attachBaggage (extractor : Extractor) (context : SpanContext) (tag : String) :
    (attachBaggage extractor context).tags.lookup tag =
      (baggageOf extractor tag).or (context.tags.lookup tag) := by
  obtain ⟨keys, get⟩ := extractor
  rw [attachBaggage, baggageOf]
  -- from the last key backwards, as later writes win
  induction keys using List.reverseRecOn with
  | nil => rfl
  | append_singleton _ key ih =>
    rw [List.foldl_append, List.foldl_cons, List.foldl_nil, List.reverse_append,
      List.reverse_singleton, List.singleton_append, List.find?_cons]
    cases item : baggageItem key with
    | none =>
      exact ih
    | some name =>
      by_cases same : name = tag
      · simp only [same, decide_true, AList.lookup_insert, Option.map_some, Option.some_or]
      · have other : ¬ some name = some tag := fun equal => same (Option.some.inj equal)
        rw [AList.lookup_insert_ne (Ne.symm same)]
        simp only [other]
        exact ih

end Traces
end Bottlecap
