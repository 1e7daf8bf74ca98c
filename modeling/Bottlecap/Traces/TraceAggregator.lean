import Bottlecap.Foundations.Draining
import Bottlecap.Traces.TraceProcessor

namespace Bottlecap
namespace Traces

open Foundations

/-!
# The trace aggregator

`traces/trace_aggregator.rs` and the command `GetBatches` of
`traces/trace_aggregator_service.rs`.  A batch is filled from the front of the queue as
long as its size is below the cap.  A payload that does not fit is put back, unless the
batch is empty: then it is a batch by itself.

Sizes are added as `usize` values, which wrap.  The result below is for queues whose
sizes do not add up to that.
-/

/-- `std::mem::take` leaves the buffer empty after every call, and `new` starts so. -/
structure TraceAggregator where
  queue : List SendDataBuilderInfo
  maxContentSizeBytes : Nat
  buffer : List SendDataBuilderInfo
  taken : buffer = []

namespace TraceAggregator

/-- `left + right` at `usize` -/
def addUsize (left right : Nat) : Nat := (left + right) % 2 ^ 64

/-- The loop of `get_batch`: the queue it leaves and the buffer. -/
def fill (maxContentSizeBytes : Nat) (batchSize : Nat) :
    List SendDataBuilderInfo -> List SendDataBuilderInfo ->
      List SendDataBuilderInfo × List SendDataBuilderInfo
  | [], buffer => ([], buffer)
  | payloadInfo :: queue, buffer =>
    if batchSize < maxContentSizeBytes then
      if maxContentSizeBytes < addUsize batchSize payloadInfo.size then
        if buffer.isEmpty then (queue, buffer ++ [payloadInfo]) else (payloadInfo :: queue, buffer)
      else fill maxContentSizeBytes (addUsize batchSize payloadInfo.size) queue
        (buffer ++ [payloadInfo])
    else (payloadInfo :: queue, buffer)

def getBatch (aggregator : TraceAggregator) : List SendDataBuilderInfo × TraceAggregator :=
  let filled := fill aggregator.maxContentSizeBytes 0 aggregator.queue aggregator.buffer
  (filled.2, { aggregator with queue := filled.1, buffer := [], taken := rfl })

/-- The variables of the loop of `GetBatches`. -/
structure Collection where
  batches : List (List SendDataBuilderInfo)
  currentBatch : List SendDataBuilderInfo
  aggregator : TraceAggregator

/-- `while !current_batch.is_empty()` -/
def Collection.continues (collection : Collection) : Bool := !collection.currentBatch.isEmpty

def Collection.next (collection : Collection) : Collection :=
  let (batch, aggregator) := collection.aggregator.getBatch
  ⟨collection.batches ++ [collection.currentBatch], batch, aggregator⟩

/-- `AggregatorCommand::GetBatches` with the number of iterations its loop may take. -/
def getBatches (fuel : Nat) (aggregator : TraceAggregator) :
    Option (List (List SendDataBuilderInfo) × TraceAggregator) :=
  let (batch, after) := aggregator.getBatch
  (whileLoop Collection.continues Collection.next fuel ⟨[], batch, after⟩).map
    (fun collection => (collection.batches, collection.aggregator))

/-! ## One batch -/

def totalSize (payloads : List SendDataBuilderInfo) : Nat :=
  (payloads.map SendDataBuilderInfo.size).sum

/-- The batch is within the cap, or one payload that is above it. -/
def Capped (maxContentSizeBytes : Nat) (batch : List SendDataBuilderInfo) : Prop :=
  totalSize batch <= maxContentSizeBytes ∨ Exists fun payloadInfo =>
    batch = [payloadInfo] ∧ maxContentSizeBytes < payloadInfo.size

theorem totalSize_append (first second : List SendDataBuilderInfo) :
    totalSize (first ++ second) = totalSize first + totalSize second := by
  rw [totalSize, List.map_append, List.sum_append]
  rfl

variable {maxContentSizeBytes : Nat}

/-- The loop splits what it is given into a batch that is capped and the rest.  The batch
is empty only if there was nothing to take. -/
theorem fill_spec (positive : 0 < maxContentSizeBytes) (queue buffer : List SendDataBuilderInfo)
    (within : totalSize buffer <= maxContentSizeBytes)
    (small : totalSize (buffer ++ queue) < 2 ^ 64) :
    let filled := fill maxContentSizeBytes (totalSize buffer) queue buffer
    filled.2 ++ filled.1 = buffer ++ queue ∧ Capped maxContentSizeBytes filled.2 ∧
      (filled.2 = [] -> buffer ++ queue = []) := by
  induction queue generalizing buffer with
  | nil =>
    rw [List.append_nil]
    exact ⟨List.append_nil buffer, Or.inl within, id⟩
  | cons payloadInfo queue ih =>
    have taken : totalSize (buffer ++ [payloadInfo]) = totalSize buffer + payloadInfo.size := by
      rw [totalSize_append]
      rfl
    rw [List.append_cons] at small ⊢
    have bound : totalSize (buffer ++ [payloadInfo]) < 2 ^ 64 := by
      rw [totalSize_append] at small
      omega
    have added : addUsize (totalSize buffer) payloadInfo.size =
        totalSize (buffer ++ [payloadInfo]) := by
      rw [addUsize, <- taken, Nat.mod_eq_of_lt bound]
    rw [fill, added]
    split
    · split
      · rename_i tooLarge
        split
        · rename_i first
          rw [List.isEmpty_iff.mp first] at tooLarge ⊢
          exact ⟨rfl, Or.inr ⟨payloadInfo, rfl, tooLarge⟩, (nomatch ·)⟩
        · rename_i others
          refine ⟨List.append_cons .., Or.inl within, ?_⟩
          intro none
          exact absurd (List.isEmpty_iff.mpr none) others
      · rename_i fits
        rcases ih (buffer ++ [payloadInfo]) (Nat.le_of_not_lt fits) small with
          ⟨split, capped, emptied⟩
        exact ⟨split, capped, emptied⟩
    · rename_i full
      refine ⟨List.append_cons .., Or.inl within, ?_⟩
      intro none
      rw [show buffer = [] from none] at full
      exact absurd positive full

theorem getBatch_spec (aggregator : TraceAggregator)
    (positive : 0 < aggregator.maxContentSizeBytes) (small : totalSize aggregator.queue < 2 ^ 64) :
    aggregator.getBatch.1 ++ aggregator.getBatch.2.queue = aggregator.queue ∧
      Capped aggregator.maxContentSizeBytes aggregator.getBatch.1 ∧
      (aggregator.getBatch.1 = [] -> aggregator.queue = []) := by
  have filled := fill_spec positive aggregator.queue [] (Nat.zero_le _) small
  rw [getBatch, aggregator.taken]
  exact filled

/-! ## All batches -/

/-- The queue of an aggregator with the cap of `start`, while the sizes do not wrap. -/
def draining (start : TraceAggregator) (positive : 0 < start.maxContentSizeBytes) :
    Draining TraceAggregator SendDataBuilderInfo (List SendDataBuilderInfo) where
  queue := queue
  getBatch := getBatch
  isEmpty := List.isEmpty
  keeps aggregator := aggregator.maxContentSizeBytes = start.maxContentSizeBytes ∧
    totalSize aggregator.queue < 2 ^ 64
  holds payloads batch := payloads = batch ∧ Capped start.maxContentSizeBytes batch
  takes := by
    rintro aggregator ⟨cap, small⟩
    rcases aggregator.getBatch_spec (cap ▸ positive) small with ⟨taken, capped, _⟩
    refine ⟨_, taken, ⟨rfl, cap ▸ capped⟩, List.isEmpty_iff, cap, ?_⟩
    rw [<- taken, totalSize_append] at small
    omega

/-- Under a positive cap the loop of `GetBatches` ends with an empty queue.  The batches
in order are what was queued, and each is within the cap or a single larger payload. -/
theorem batches_capped (aggregator : TraceAggregator)
    (positive : 0 < aggregator.maxContentSizeBytes) (small : totalSize aggregator.queue < 2 ^ 64) :
    Exists fun fuel => Exists fun batches => Exists fun after =>
        aggregator.getBatches fuel = some (batches, after) ∧ after.queue = [] ∧
          batches.flatten = aggregator.queue ∧
          forall batch, batch ∈ batches -> Capped aggregator.maxContentSizeBytes batch := by
  rcases @Draining.ends _ _ _ _ (aggregator.draining positive) Collection.batches
    Collection.currentBatch Collection.aggregator Collection.next (fun _ => rfl) (fun _ => rfl)
    aggregator ⟨[], aggregator.getBatch.1, aggregator.getBatch.2⟩ ⟨rfl, small⟩ rfl with
    ⟨fuel, final, ends, groups, last, drains⟩
  have drained : final.aggregator.queue = [] := by
    have empty : last.getBatch.1 = [] := by
      rw [show last.getBatch = _ from drains.asked]
      exact List.isEmpty_iff.mp drains.stopped
    exact drains.left.symm.trans ((last.getBatch_spec (drains.kept.1 ▸ positive)
      drains.kept.2).2.2 empty)
  have batches : final.batches = groups.map Prod.fst := by
    rw [drains.batches]
    exact List.map_congr_left (fun group member => (drains.held group member).1.1.symm)
  refine ⟨fuel, final.batches, final.aggregator, ?_, drained, ?_, ?_⟩
  · exact congrArg (Option.map (fun collection => (collection.batches, collection.aggregator))) ends
  · have split : _ ++ final.aggregator.queue = aggregator.queue := drains.split
    rw [drained, List.append_nil] at split
    rw [batches, split]
  · rw [drains.batches]
    refine List.forall_mem_map.mpr (fun group member => ?_)
    exact (drains.held group member).1.2

/-- A payload of the given size, for queues that are written out. -/
def payloadOf (size : Nat) : SendDataBuilderInfo :=
  ⟨size, .v07 [], ⟨false, ∅⟩, "", 0, 0⟩

/-- Payloads of size zero, payloads that fill a batch and one above the cap. -/
theorem batches_capped_oversized :
    let aggregator : TraceAggregator := ⟨[0, 4, 6, 0, 30, 5].map payloadOf, 10, [], rfl⟩
    Exists fun fuel => (aggregator.getBatches fuel).any
      (fun result => result.2.queue.isEmpty) = true := by
  intro aggregator
  rcases batches_capped aggregator (by decide) (by decide) with
    ⟨fuel, batches, after, ends, drained, _⟩
  refine ⟨fuel, ?_⟩
  rw [ends, Option.any_some, drained]
  rfl

end TraceAggregator

end Traces
end Bottlecap
