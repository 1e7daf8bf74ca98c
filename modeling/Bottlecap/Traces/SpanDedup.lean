import Mathlib.Data.Finset.Basic
import Mathlib.Data.Finset.Lattice.Lemmas
import Mathlib.Data.List.DropRight

namespace Bottlecap
namespace Traces

/-!
# The span deduplicator

`traces/span_dedup.rs`.  A set answers whether a key was seen, and a queue says which key
leaves when the capacity is reached.  Together they are the window of the keys that were
accepted last.  A capacity of zero keeps one key: nothing can be evicted from the empty
queue, and the new key is added all the same.
-/

structure DedupKey where
  traceId : UInt64
  spanId : UInt64
deriving DecidableEq

structure Deduper where
  seen : Finset DedupKey
  order : List DedupKey
  capacity : Nat

namespace Deduper

def new (capacity : Nat) : Deduper := ⟨∅, [], capacity⟩

/-- The eviction of `check_and_add`. -/
def evict (deduper : Deduper) : Deduper :=
  if deduper.capacity <= deduper.order.length then
    match deduper.order with
    | [] => deduper
    | oldest :: rest => { deduper with seen := deduper.seen.erase oldest, order := rest }
  else deduper

def checkAndAdd (key : DedupKey) (deduper : Deduper) : Bool × Deduper :=
  if key ∈ deduper.seen then (false, deduper)
  else
    let evicted := deduper.evict
    (true, { evicted with seen := insert key evicted.seen, order := evicted.order ++ [key] })

/-- Some calls in order: the keys for which a call returned `true`, and the deduplicator
after the last one. -/
def calls (deduper : Deduper) (keys : List DedupKey) : List DedupKey × Deduper :=
  keys.foldl (fun state key =>
    let (added, after) := state.2.checkAndAdd key
    (if added then state.1 ++ [key] else state.1, after)) ([], deduper)

/-- The keys of the window are what the set and the queue hold. -/
structure Holds (capacity : Nat) (window : List DedupKey) (deduper : Deduper) : Prop where
  capacity : deduper.capacity = capacity
  order : deduper.order = window
  seen : deduper.seen = window.toFinset
  distinct : window.Nodup

variable {capacity : Nat} {window : List DedupKey} {deduper : Deduper}

theorem Holds.mem_seen_iff (holds : Holds capacity window deduper) (key : DedupKey) :
    key ∈ deduper.seen <-> key ∈ window := by
  rw [holds.seen, List.mem_toFinset]

/-- What the eviction leaves of a window. -/
def kept (capacity : Nat) (window : List DedupKey) : List DedupKey :=
  if capacity <= window.length then window.tail else window

theorem Holds.evict (holds : Holds capacity window deduper) :
    Holds capacity (kept capacity window) deduper.evict := by
  rcases holds with ⟨rfl, rfl, seen, distinct⟩
  rw [kept, Deduper.evict]
  split
  · split
    next empty => rw [empty] at seen distinct ⊢; exact ⟨rfl, empty, seen, distinct⟩
    next oldest rest listed =>
      rw [listed] at seen distinct ⊢
      rw [List.nodup_cons] at distinct
      refine ⟨rfl, rfl, ?_, distinct.2⟩
      rw [seen, List.toFinset_cons]
      exact Finset.erase_insert (fun member => distinct.1 (List.mem_toFinset.mp member))
  · exact ⟨rfl, rfl, seen, distinct⟩

theorem Holds.add (holds : Holds capacity window deduper) {key : DedupKey} (fresh : key ∉ window) :
    Holds capacity (kept capacity window ++ [key]) (deduper.checkAndAdd key).2 := by
  have unseen : key ∉ deduper.seen := fun member => fresh ((holds.mem_seen_iff key).mp member)
  have evicted := holds.evict
  have absent : key ∉ kept capacity window := by
    rw [kept]
    split
    · exact fun member => fresh (List.mem_of_mem_tail member)
    · exact fresh
  rw [checkAndAdd, if_neg unseen]
  refine ⟨evicted.capacity, ?_, ?_, ?_⟩
  · exact congrArg (· ++ [key]) evicted.order
  · rw [List.toFinset_append, Finset.union_comm, <- evicted.seen]
    exact Finset.insert_eq key _
  · exact List.nodup_append_comm.mp (List.nodup_cons.mpr ⟨absent, evicted.distinct⟩)

/-- The window over the accepted keys moves by one key.  It has at least one place. -/
theorem kept_append (accepted : List DedupKey) (key : DedupKey) :
    kept capacity (accepted.rtake (max capacity 1)) ++ [key] =
      (accepted ++ [key]).rtake (max capacity 1) := by
  have length : (accepted.rtake (max capacity 1)).length =
      min (max capacity 1) accepted.length := by
    rw [List.rtake, List.length_drop]
    omega
  have start : accepted.length + 1 - max capacity 1 <= accepted.length := by omega
  have moved : (accepted ++ [key]).rtake (max capacity 1) =
      accepted.drop (accepted.length + 1 - max capacity 1) ++ [key] := by
    rw [List.rtake, List.length_append, List.length_singleton, List.drop_append_of_le_length start]
  rw [moved, kept, length]
  congr 1
  by_cases full : max capacity 1 <= accepted.length
  · rw [if_pos (by omega), List.rtake, List.tail_drop]
    congr 1
    omega
  · have whole : accepted.length + 1 - max capacity 1 = 0 := by omega
    have unmoved : accepted.length - max capacity 1 = 0 := by omega
    rw [whole, List.rtake, unmoved, List.drop_zero]
    split
    next none =>
      have empty : accepted.length = 0 := by omega
      rw [List.length_eq_zero_iff.mp empty, List.tail_nil]
    next => rfl

/-- After any calls the deduplicator holds the keys accepted last. -/
theorem holds_calls (capacity : Nat) (keys : List DedupKey) :
    Holds capacity (((new capacity).calls keys).1.rtake (max capacity 1))
      ((new capacity).calls keys).2 := by
  induction keys using List.reverseRecOn with
  | nil =>
    have empty : ((new capacity).calls []).1.rtake (max capacity 1) = [] := List.rtake_nil _
    rw [empty]
    exact ⟨rfl, rfl, rfl, List.nodup_nil⟩
  | append_singleton keys key ih =>
    rw [calls, List.foldl_append, <- calls, List.foldl_cons, List.foldl_nil]
    by_cases known : key ∈ ((new capacity).calls keys).2.seen
    · simp only [checkAndAdd, if_pos known, Bool.false_eq_true, if_false]
      exact ih
    · have fresh := fun member => known ((ih.mem_seen_iff key).mpr member)
      have added := ih.add fresh
      rw [kept_append] at added
      simp only [checkAndAdd, if_neg known, if_true] at added ⊢
      exact added

/-- A call returns `false` exactly if its key is among the keys accepted last, as many as the
capacity says but at least one.  The set is that of the keys in the queue, which are distinct. -/
theorem rejects_iff_recent (capacity : Nat) (keys : List DedupKey) :
    (forall key, (((new capacity).calls keys).2.checkAndAdd key).1 = false <->
        key ∈ ((new capacity).calls keys).1.rtake (max capacity 1)) ∧
      ((new capacity).calls keys).2.seen = ((new capacity).calls keys).2.order.toFinset ∧
      ((new capacity).calls keys).2.order.Nodup := by
  have holds := holds_calls capacity keys
  refine ⟨fun key => ?_, ?_, ?_⟩
  · rw [<- holds.mem_seen_iff, checkAndAdd]
    by_cases known : key ∈ ((new capacity).calls keys).2.seen
    · rw [if_pos known]
      exact iff_of_true rfl known
    · rw [if_neg known]
      exact iff_of_false (fun same => by cases same) known
  · rw [holds.order, holds.seen]
  · rw [holds.order]
    exact holds.distinct

example : ((new 0).calls [⟨1, 1⟩, ⟨1, 1⟩, ⟨2, 1⟩, ⟨1, 1⟩]).1 = [⟨1, 1⟩, ⟨2, 1⟩, ⟨1, 1⟩] := by decide

end Deduper
end Traces
end Bottlecap
