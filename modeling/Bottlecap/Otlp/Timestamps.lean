import Bottlecap.Foundations.Json

namespace Bottlecap
namespace Otlp

open Foundations

/-!
# Timestamps of JSON requests

`normalize_timestamps` of `otlp/processor.rs` rewrites the timestamps of a request in
JSON to decimal strings, before it is deserialized.  Exporters also write them as
integers and as objects with the two halves.

A document is read as it is parsed.  What is under a timestamp key is not searched for
further keys, so that two documents may differ there in the notation only.
-/

/-- `TIMESTAMP_FIELDS` -/
def timestampFields : List String :=
  ["startTimeUnixNano", "endTimeUnixNano", "timeUnixNano", "observedTimeUnixNano"]

def normalizeTimestampValue (value : Value) : Value :=
  match value with
  | .number (.posInt number) => .string (toString number.toNat)
  | .number (.negInt number) => .string (toString number)
  | .object _ =>
    match (value.get "low").bind Value.asU64, (value.get "high").bind Value.asU64 with
    | some low, some high =>
      .string (toString ((high <<< 32) ||| (low &&& 0xFFFFFFFF)).toNat)
    | _, _ => value
  | _ => value

mutual

def normalizeTimestamps : Value -> Value
  | .object members => .object (normalizeMembers members)
  | .array items => .array (normalizeItems items)
  | value => value

def normalizeMembers : List (String × Value) -> List (String × Value)
  | [] => []
  | (key, value) :: rest =>
    (key, if timestampFields.contains key then normalizeTimestampValue value
      else normalizeTimestamps value) :: normalizeMembers rest

def normalizeItems : List Value -> List Value
  | [] => []
  | item :: rest => normalizeTimestamps item :: normalizeItems rest

end

/-! ## Documents that differ in the notation -/

/-- The value is the timestamp: a decimal string, an integer, or its halves. -/
inductive Notates (time : UInt64) : Value -> Prop where
  | decimal : Notates time (.string (toString time.toNat))
  | integer : Notates time (.number (.posInt time))
  | halves {members : List (String × Value)} {low high : UInt64}
      (lowGiven : (Value.object members).get "low" = some (Value.number (Number.posInt low)))
      (highGiven : (Value.object members).get "high" = some (Value.number (Number.posInt high)))
      (lowShort : low.toNat < 2 ^ 32) (highShort : high.toNat < 2 ^ 32)
      (whole : time.toNat = high.toNat * 2 ^ 32 + low.toNat) :
      Notates time (.object members)

mutual

/-- The documents are equal but for the notation of their timestamps. -/
inductive Renotated : Value -> Value -> Prop where
  | same (value : Value) : Renotated value value
  | object {first second : List (String × Value)} (members : RenotatedMembers first second) :
      Renotated (.object first) (.object second)
  | array {first second : List Value} (items : RenotatedItems first second) :
      Renotated (.array first) (.array second)

inductive RenotatedMembers : List (String × Value) -> List (String × Value) -> Prop where
  | nil : RenotatedMembers [] []
  | timestamp {key : String} {left right : Value} {first second : List (String × Value)}
      {time : UInt64} (listed : timestampFields.contains key = true) (leftTime : Notates time left)
      (rightTime : Notates time right) (tail : RenotatedMembers first second) :
      RenotatedMembers ((key, left) :: first) ((key, right) :: second)
  | same {key : String} (value : Value) {first second : List (String × Value)}
      (tail : RenotatedMembers first second) :
      RenotatedMembers ((key, value) :: first) ((key, value) :: second)
  | other {key : String} {left right : Value} {first second : List (String × Value)}
      (unlisted : timestampFields.contains key = false) (head : Renotated left right)
      (tail : RenotatedMembers first second) :
      RenotatedMembers ((key, left) :: first) ((key, right) :: second)

inductive RenotatedItems : List Value -> List Value -> Prop where
  | nil : RenotatedItems [] []
  | cons {left right : Value} {first second : List Value} (head : Renotated left right)
      (tail : RenotatedItems first second) : RenotatedItems (left :: first) (right :: second)

end

theorem toNat_halves {low high : UInt64} (lowShort : low.toNat < 2 ^ 32)
    (highShort : high.toNat < 2 ^ 32) :
    ((high <<< 32) ||| (low &&& 0xFFFFFFFF)).toNat = high.toNat * 2 ^ 32 + low.toNat := by
  have masked : low &&& 0xFFFFFFFF = low := by
    apply UInt64.toNat.inj
    exact Nat.and_two_pow_sub_one_of_lt_two_pow lowShort
  have shifted : (high <<< 32).toNat = high.toNat <<< 32 := by
    change high.toNat <<< 32 % 2 ^ 64 = _
    omega
  rw [masked, UInt64.toNat_or, shifted, <- Nat.shiftLeft_add_eq_or_of_lt lowShort,
    Nat.shiftLeft_eq]

theorem normalizeTimestampValue_of_notates {time : UInt64} {value : Value}
    (notates : Notates time value) :
    normalizeTimestampValue value = Value.string (toString time.toNat) := by
  cases notates with
  | decimal => rfl
  | integer => rfl
  | halves lowGiven highGiven lowShort highShort whole =>
    rw [normalizeTimestampValue]
    simp only [lowGiven, highGiven, Option.bind_some, Value.asU64,
      toNat_halves lowShort highShort, whole]

theorem normalizeTimestampValue_idem (value : Value) :
    normalizeTimestampValue (normalizeTimestampValue value) = normalizeTimestampValue value := by
  cases value with
  | number number => cases number <;> rfl
  | object members =>
    cases low : ((Value.object members).get "low").bind Value.asU64 with
    | none => simp only [normalizeTimestampValue, low]
    | some =>
      cases high : ((Value.object members).get "high").bind Value.asU64 with
      | none | some => simp only [normalizeTimestampValue, low, high]
  | _ => rfl

mutual

theorem normalizeTimestamps_eq {first second : Value} (renotated : Renotated first second) :
    normalizeTimestamps first = normalizeTimestamps second := by
  cases renotated with
  | same => rfl
  | object members => rw [normalizeTimestamps, normalizeTimestamps, normalizeMembers_eq members]
  | array items => rw [normalizeTimestamps, normalizeTimestamps, normalizeItems_eq items]

theorem normalizeMembers_eq {first second : List (String × Value)}
    (renotated : RenotatedMembers first second) :
    normalizeMembers first = normalizeMembers second := by
  cases renotated with
  | nil => rfl
  | timestamp listed leftTime rightTime tail =>
    rw [normalizeMembers, normalizeMembers, if_pos listed, if_pos listed,
      normalizeTimestampValue_of_notates leftTime, normalizeTimestampValue_of_notates rightTime,
      normalizeMembers_eq tail]
  | same value tail => rw [normalizeMembers, normalizeMembers, normalizeMembers_eq tail]
  | other unlisted head tail =>
    rw [normalizeMembers, normalizeMembers, normalizeTimestamps_eq head, unlisted,
      normalizeMembers_eq tail]
    rfl

theorem normalizeItems_eq {first second : List Value} (renotated : RenotatedItems first second) :
    normalizeItems first = normalizeItems second := by
  cases renotated with
  | nil => rfl
  | cons head tail =>
    rw [normalizeItems, normalizeItems, normalizeTimestamps_eq head, normalizeItems_eq tail]

end

mutual

theorem normalizeTimestamps_idem (value : Value) :
    normalizeTimestamps (normalizeTimestamps value) = normalizeTimestamps value := by
  cases value with
  | object members =>
    simp only [normalizeTimestamps]
    rw [normalizeMembers_idem members]
  | array items =>
    simp only [normalizeTimestamps]
    rw [normalizeItems_idem items]
  | _ => rfl

theorem normalizeMembers_idem (members : List (String × Value)) :
    normalizeMembers (normalizeMembers members) = normalizeMembers members := by
  match members with
  | [] => rfl
  | (key, value) :: rest =>
    simp only [normalizeMembers]
    rw [normalizeMembers_idem rest]
    split
    · rw [normalizeTimestampValue_idem]
    · rw [normalizeTimestamps_idem value]

theorem normalizeItems_idem (items : List Value) :
    normalizeItems (normalizeItems items) = normalizeItems items := by
  match items with
  | [] => rfl
  | item :: rest =>
    simp only [normalizeItems]
    rw [normalizeTimestamps_idem item, normalizeItems_idem rest]

end

/-! ## The timestamps of a document -/

mutual

/-- The values under the timestamp keys, at any depth. -/
def timestamps : Value -> List Value
  | .object members => memberTimestamps members
  | .array items => itemTimestamps items
  | _ => []

def memberTimestamps : List (String × Value) -> List Value
  | [] => []
  | (key, value) :: rest =>
    (if timestampFields.contains key then [value] else timestamps value) ++ memberTimestamps rest

def itemTimestamps : List Value -> List Value
  | [] => []
  | item :: rest => timestamps item ++ itemTimestamps rest

end

mutual

theorem timestamps_normalizeTimestamps (value : Value) :
    timestamps (normalizeTimestamps value) = (timestamps value).map normalizeTimestampValue := by
  cases value with
  | object members => exact memberTimestamps_normalizeMembers members
  | array items => exact itemTimestamps_normalizeItems items
  | _ => rfl

theorem memberTimestamps_normalizeMembers (members : List (String × Value)) :
    memberTimestamps (normalizeMembers members) =
      (memberTimestamps members).map normalizeTimestampValue := by
  match members with
  | [] => rfl
  | (key, value) :: rest =>
    simp only [normalizeMembers, memberTimestamps, List.map_append]
    rw [memberTimestamps_normalizeMembers rest]
    split
    · rfl
    · rw [timestamps_normalizeTimestamps value]

theorem itemTimestamps_normalizeItems (items : List Value) :
    itemTimestamps (normalizeItems items) = (itemTimestamps items).map normalizeTimestampValue := by
  match items with
  | [] => rfl
  | item :: rest =>
    simp only [normalizeItems, itemTimestamps, List.map_append]
    rw [timestamps_normalizeTimestamps item, itemTimestamps_normalizeItems rest]

end

/-- Documents that differ only in how their timestamps are written become the same
document, with every timestamp as its decimal string, which is not changed again. -/
theorem timestamps_normalized (first second : Value) (renotated : Renotated first second) :
    normalizeTimestamps first = normalizeTimestamps second ∧
      (forall (place : Nat) (time : UInt64) (value : Value),
        (timestamps first)[place]? = some value -> Notates time value ->
        (timestamps (normalizeTimestamps first))[place]? =
          some (Value.string (toString time.toNat))) ∧
      normalizeTimestamps (normalizeTimestamps first) = normalizeTimestamps first := by
  refine ⟨normalizeTimestamps_eq renotated, ?_, normalizeTimestamps_idem first⟩
  intro place time value found notates
  rw [timestamps_normalizeTimestamps, List.getElem?_map, found, Option.map_some,
    normalizeTimestampValue_of_notates notates]

/-- The start of a span, as a string and as two halves. -/
theorem timestamps_normalized_span :
    let span (start : Value) : Value :=
      .object [("spans", .array [.object [("startTimeUnixNano", start)]])]
    let number (value : UInt64) : Value := .number (.posInt value)
    normalizeTimestamps (span (.object [("high", number 1), ("low", number 5)])) =
      normalizeTimestamps (span (Value.string "4294967301")) := by
  refine (timestamps_normalized _ _ (.object (.other rfl ?_
    .nil))).1
  refine .array (.cons (.object ?_) .nil)
  exact .timestamp rfl (.halves rfl rfl (by decide) (by decide) rfl)
    (@Notates.decimal 4294967301) .nil

end Otlp
end Bottlecap
