import Mathlib.Algebra.Order.BigOperators.Group.List
import Mathlib.Algebra.Order.Ring.Nat

namespace Bottlecap
namespace Traces

/-!
# The stats aggregator

`traces/stats_aggregator.rs`.  A batch is filled from the front of the queue as long as
the sizes of its payloads are within the cap.  The size of a payload is what `size_of_val`
says, which is that of the struct and the same for every payload: what a payload holds on
the heap does not count.  So the cap is one on the number of payloads.
-/

/-- What the protobuf crate fixes about `ClientStatsPayload`. -/
structure PayloadLayout (Payload : Type) where
  sizeOfVal : Nat
  nonzero : 0 < sizeOfVal
  /-- The size of what is sent for a payload, its heap contents included. -/
  contentSize : Payload -> Nat

/-- `std::mem::take` leaves the buffer empty after every call, and `new` starts so. -/
structure StatsAggregator (Payload : Type) where
  queue : List Payload
  maxContentSizeBytes : Nat
  buffer : List Payload
  taken : buffer = []

namespace StatsAggregator

variable {Payload StatsError : Type} (layout : PayloadLayout Payload)

/-- `MAX_CONTENT_SIZE_BYTES` -/
def maxContentSize : Nat := 3 * 1024 * 1024

/-- `StatsAggregator::new_with_concentrator` -/
def new : StatsAggregator Payload := ⟨[], maxContentSize, [], rfl⟩

def add (payload : Payload) (aggregator : StatsAggregator Payload) : StatsAggregator Payload :=
  { aggregator with queue := aggregator.queue ++ [payload] }

/-- The loop of `get_batch`: the queue it leaves and the buffer. -/
def fill (maxContentSizeBytes batchSize : Nat) :
    List Payload -> List Payload -> List Payload × List Payload
  | [], buffer => ([], buffer)
  | payload :: queue, buffer =>
    if batchSize < maxContentSizeBytes then
      if maxContentSizeBytes < batchSize + layout.sizeOfVal then (payload :: queue, buffer)
      else fill maxContentSizeBytes (batchSize + layout.sizeOfVal) queue (buffer ++ [payload])
    else (payload :: queue, buffer)

/-- The queue with what the concentrator answers to `flush`. -/
def pulled (flushed : Except StatsError (Option Payload)) (aggregator : StatsAggregator Payload) :
    List Payload :=
  match flushed with
  | Except.ok (some stats) => aggregator.queue ++ [stats]
  | Except.ok none => aggregator.queue
  | Except.error _ => aggregator.queue

def getBatch (flushed : Except StatsError (Option Payload))
    (aggregator : StatsAggregator Payload) : List Payload × StatsAggregator Payload :=
  let filled := fill layout aggregator.maxContentSizeBytes 0 (aggregator.pulled flushed)
    aggregator.buffer
  (filled.2, { aggregator with queue := filled.1, buffer := [], taken := rfl })

/-- After some payloads the loop takes as many more as have room by the size of the struct. -/
theorem fill_eq (maxContentSizeBytes count : Nat) (queue buffer : List Payload) :
    fill layout maxContentSizeBytes (count * layout.sizeOfVal) queue buffer =
      (queue.drop (maxContentSizeBytes / layout.sizeOfVal - count),
        buffer ++ queue.take (maxContentSizeBytes / layout.sizeOfVal - count)) := by
  have nonzero := layout.nonzero
  induction queue generalizing count buffer with
  | nil => rw [fill, List.drop_nil, List.take_nil, List.append_nil]
  | cons payload queue ih =>
    have more : count + 1 <= maxContentSizeBytes / layout.sizeOfVal <->
        count * layout.sizeOfVal + layout.sizeOfVal <= maxContentSizeBytes := by
      rw [Nat.le_div_iff_mul_le nonzero, Nat.succ_mul]
    rw [fill]
    by_cases fits : count * layout.sizeOfVal + layout.sizeOfVal <= maxContentSizeBytes
    · rw [if_pos (by omega), if_neg (by omega), <- Nat.succ_mul, ih]
      have room : maxContentSizeBytes / layout.sizeOfVal - count =
          maxContentSizeBytes / layout.sizeOfVal - (count + 1) + 1 := by
        omega
      rw [room, List.drop_succ_cons, List.take_succ_cons, List.append_assoc,
        List.singleton_append]
    · have full : maxContentSizeBytes / layout.sizeOfVal - count = 0 := by
        omega
      rw [full, List.drop_zero, List.take_zero, List.append_nil]
      split
      · rw [if_pos (by omega)]
      · rfl

theorem getBatch_eq (flushed : Except StatsError (Option Payload))
    (aggregator : StatsAggregator Payload) :
    (aggregator.getBatch layout flushed).1 =
      (aggregator.pulled flushed).take (aggregator.maxContentSizeBytes / layout.sizeOfVal) := by
  have filled := fill_eq layout aggregator.maxContentSizeBytes 0 (aggregator.pulled flushed) []
  rw [Nat.zero_mul, Nat.sub_zero, List.nil_append] at filled
  rw [getBatch, aggregator.taken, filled]

/-- The contents are within the cap, or those of a single payload. -/
def Bounded (maxContentSizeBytes : Nat) (batch : List Payload) : Prop :=
  (batch.map layout.contentSize).sum <= maxContentSizeBytes ∨ batch.length = 1

/-- A batch is bounded if each payload of the queue keeps to its share of the cap, of which
there are as many as the cap has room for structs.  Copies of a payload that does not are
batched beyond the cap. -/
theorem batch_bounded (flushed : Except StatsError (Option Payload))
    (aggregator : StatsAggregator Payload) :
    let limit := aggregator.maxContentSizeBytes
    let shares := limit / layout.sizeOfVal
    ((forall payload, payload ∈ aggregator.pulled flushed ->
        shares * layout.contentSize payload <= limit) ->
      Bounded layout limit (aggregator.getBatch layout flushed).1) ∧
    (forall payload, 2 <= shares -> limit < shares * layout.contentSize payload ->
      ¬ Bounded layout limit (({ aggregator with queue := List.replicate shares payload }
        ).getBatch layout (Except.ok none : Except StatsError (Option Payload))).1) := by
  intro limit shares
  refine ⟨?_, ?_⟩
  · intro each
    rw [getBatch_eq]
    refine Or.inl ?_
    rcases Nat.eq_zero_or_pos shares with zero | some_
    · change (((aggregator.pulled flushed).take shares).map layout.contentSize).sum <= limit
      rw [zero]
      exact Nat.zero_le limit
    · have share : forall size, size ∈ ((aggregator.pulled flushed).take shares).map
          layout.contentSize -> size <= limit / shares := by
        intro size member
        rcases List.mem_map.mp member with ⟨payload, taken, rfl⟩
        rw [Nat.le_div_iff_mul_le some_, Nat.mul_comm]
        exact each payload (List.mem_of_mem_take taken)
      refine Nat.le_trans (List.sum_le_card_nsmul _ _ share) ?_
      rw [List.length_map, nsmul_eq_mul, Nat.cast_id]
      exact Nat.le_trans (Nat.mul_le_mul_right _ (List.length_take_le _ _))
        (Nat.mul_div_le limit shares)
  · intro payload several large
    rw [getBatch_eq]
    change ¬ Bounded layout limit ((List.replicate shares payload).take shares)
    rw [List.take_of_length_le (Nat.le_of_eq List.length_replicate)]
    rintro (within | single)
    · rw [List.map_replicate, List.sum_replicate, nsmul_eq_mul, Nat.cast_id] at within
      omega
    · rw [List.length_replicate] at single
      omega

/-- Payloads given by the size of their contents. -/
def sizes : PayloadLayout Nat := ⟨256, by decide, id⟩

/-- Contents no larger than the struct are within the share. -/
theorem batch_bounded_small :
    Bounded sizes maxContentSize ((new.add 256 |>.add 100).getBatch sizes
      (Except.ok (some 200) : Except Unit (Option Nat))).1 := by
  refine (batch_bounded sizes _ _).1 ?_
  change forall payload, payload ∈ [256, 100, 200] -> 12288 * payload <= 3145728
  decide

/-- Under the cap of 3 MiB, two payloads of 2 MB each are one batch. -/
theorem large_payloads_batched :
    ¬ Bounded sizes maxContentSize ((new.add 2000000 |>.add 2000000).getBatch sizes
      (Except.ok none : Except Unit (Option Nat))).1 := by
  rw [getBatch_eq]
  rintro (within | single)
  · change 4000000 <= maxContentSize at within
    exact absurd within (by decide)
  · cases single

end StatsAggregator
end Traces
end Bottlecap
