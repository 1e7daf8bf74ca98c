import Mathlib.Data.List.AList
import Mathlib.Data.List.Induction

namespace Bottlecap
namespace DataStreams

/-!
# Checkpoints in time buckets

`traces/data_streams/aggregator.rs`.  A checkpoint is folded into the point of its hash in
the bucket of its time, and a payload takes all buckets.  Eight bytes of a hash and their
number are one to one, so that the bytes are the key.
-/

structure Checkpoint where
  (hash parentHash : List UInt8)
  edgeTags : List String
  (edgeLatencyNs pathwayLatencyNs currentTsNs : UInt64)

/-- What is used of `DdSketch`, and `ns as f64 / 1e9`. -/
structure Sketches (Sketch Amount : Type) where
  new : Sketch
  accept : Sketch -> Amount -> Sketch
  seconds : UInt64 -> Amount

structure StatsPoint (Sketch : Type) where
  (hash parentHash : List UInt8)
  edgeTags : List String
  (edgeLatency pathwayLatency payloadSize : Sketch)

abbrev Buckets (Sketch : Type) :=
  AList fun _ : UInt64 => AList fun _ : List UInt8 => StatsPoint Sketch

namespace Buckets

variable {Sketch Amount : Type} (sketches : Sketches Sketch Amount)

def bucketSizeNs : UInt64 := 10000000000

def bucketStart (checkpoint : Checkpoint) : UInt64 :=
  checkpoint.currentTsNs - checkpoint.currentTsNs % bucketSizeNs

/-- `StatsPoint::new` -/
def newPoint (checkpoint : Checkpoint) : StatsPoint Sketch :=
  ⟨checkpoint.hash, checkpoint.parentHash, checkpoint.edgeTags, sketches.new, sketches.new,
    sketches.new⟩

/-- `StatsPoint::add` -/
def addTo (point : StatsPoint Sketch) (record : Checkpoint × Amount) : StatsPoint Sketch :=
  { point with
    edgeLatency := sketches.accept point.edgeLatency (sketches.seconds record.1.edgeLatencyNs)
    pathwayLatency :=
      sketches.accept point.pathwayLatency (sketches.seconds record.1.pathwayLatencyNs)
    payloadSize := sketches.accept point.payloadSize record.2 }

/-- `Aggregator::add` -/
def add (record : Checkpoint × Amount) (buckets : Buckets Sketch) : Buckets Sketch :=
  let points := (buckets.lookup (bucketStart record.1)).getD ∅
  let point := (points.lookup record.1.hash).getD (newPoint sketches record.1)
  buckets.insert (bucketStart record.1) (points.insert record.1.hash (addTo sketches point record))

/-- The stats of `take_payload`, and what stays. -/
def takePayload (buckets : Buckets Sketch) : Option (Buckets Sketch) × Buckets Sketch :=
  if buckets.entries.isEmpty then (none, buckets) else (some buckets, ∅)

inductive Call (Amount : Type) where
  | add (record : Checkpoint × Amount)
  | takePayload

def step (buckets : Buckets Sketch) : Call Amount -> Buckets Sketch
  | .add record => buckets.add sketches record
  | .takePayload => buckets.takePayload.2

/-- What was added since the last payload. -/
def pending (calls : List (Call Amount)) : List (Checkpoint × Amount) :=
  calls.foldl (fun | records, Call.add record => records ++ [record] | _, Call.takePayload => []) []

def pointAt (start : UInt64) (hash : List UInt8) (buckets : Buckets Sketch) :
    Option (StatsPoint Sketch) :=
  (buckets.lookup start).bind (AList.lookup hash)

/-- The first of the records in a bucket with a hash, after all of them in order. -/
def pointOf (start : UInt64) (hash : List UInt8) (records : List (Checkpoint × Amount)) :
    Option (StatsPoint Sketch) :=
  match records.filter fun record => bucketStart record.1 = start ∧ record.1.hash = hash with
  | [] => none
  | first :: rest => some ((first :: rest).foldl (addTo sketches) (newPoint sketches first.1))

structure Holds (records : List (Checkpoint × Amount)) (buckets : Buckets Sketch) : Prop where
  points : forall start hash, buckets.pointAt start hash = pointOf sketches start hash records
  empty : buckets.entries = [] <-> records = []

variable {sketches} {records : List (Checkpoint × Amount)} {buckets : Buckets Sketch}

theorem lookup_getD (start : UInt64) (hash : List UInt8) :
    ((buckets.lookup start).getD ∅).lookup hash = buckets.pointAt start hash := by
  unfold pointAt
  cases buckets.lookup start <;> rfl

theorem Holds.add (holds : Holds sketches records buckets) (record : Checkpoint × Amount) :
    Holds sketches (records ++ [record]) (buckets.add sketches record) := by
  refine ⟨fun start hash => ?_, iff_of_false (List.cons_ne_nil _ _) (by simp)⟩
  have before := holds.points start hash
  unfold pointOf at before ⊢
  rw [List.filter_append]
  by_cases own : bucketStart record.1 = start ∧ record.1.hash = hash
  · obtain ⟨rfl, rfl⟩ := own
    rw [pointAt, Buckets.add, AList.lookup_insert, Option.bind_some, AList.lookup_insert,
      lookup_getD, before, List.filter_cons_of_pos (by simp), List.filter_nil]
    cases records.filter _ with
    | nil => rfl
    | cons first rest => simp
  · rw [List.filter_cons_of_neg (by simpa using own), List.filter_nil, List.append_nil, <- before,
      pointAt, Buckets.add]
    -- Another hash in the bucket, or another bucket.
    by_cases inBucket : start = bucketStart record.1
    · subst inBucket
      rw [AList.lookup_insert, Option.bind_some,
        AList.lookup_insert_ne fun same => own ⟨rfl, same.symm⟩, lookup_getD]
    · rw [AList.lookup_insert_ne inBucket, pointAt]

theorem holds_empty : Holds sketches [] (∅ : Buckets Sketch) := ⟨fun _ _ => rfl, by simp⟩

theorem holds_run (calls : List (Call Amount)) :
    Holds sketches (pending calls) (calls.foldl (step sketches) ∅) := by
  induction calls using List.reverseRecOn with
  | nil => exact holds_empty
  | append_singleton before call ih =>
    rw [pending, List.foldl_append, List.foldl_append]
    cases call with
    | add record => exact ih.add record
    | takePayload =>
      change Holds sketches [] (takePayload _).2
      unfold takePayload
      split
      next bare => exact ih.empty.mp (List.isEmpty_iff.mp bare) ▸ ih
      next => exact holds_empty

/-- In every run a payload is withheld exactly if nothing was added since the last one, and
else has exactly the points of the records added since. -/
theorem payload_accounts (calls : List (Call Amount)) :
    match (calls.foldl (step sketches) ∅).takePayload.1 with
    | none => pending calls = []
    | some payload => pending calls ≠ [] ∧ forall start hash,
        payload.pointAt start hash = pointOf sketches start hash (pending calls) := by
  obtain ⟨points, empty⟩ : Holds sketches _ _ := holds_run calls
  by_cases bare : (calls.foldl (step sketches) ∅).entries = []
  · rw [takePayload, if_pos (List.isEmpty_iff.mpr bare)]
    exact empty.mp bare
  · rw [takePayload, if_neg (mt List.isEmpty_iff.mp bare)]
    exact ⟨mt empty.mpr bare, points⟩

end Buckets
end DataStreams
end Bottlecap
