import Bottlecap.Foundations.Loop

namespace Bottlecap
namespace Foundations

/-!
# Draining a queue in batches

A source hands out what is in its queue, batch by batch, and a loop collects the batches
until one is empty.  The loop ends, because a batch that is not empty takes items from the
front of the queue.  Its batches hold what has left the queue, in order.
-/

/-- A source of batches.  A batch may be empty although there are items in the queue. -/
structure Draining (Source Item Batch : Type) where
  queue : Source -> List Item
  getBatch : Source -> Batch × Source
  isEmpty : Batch -> Bool
  keeps : Source -> Prop
  holds : List Item -> Batch -> Prop
  takes : forall source, keeps source -> Exists fun items =>
    items ++ queue (getBatch source).2 = queue source ∧ holds items (getBatch source).1 ∧
      (isEmpty (getBatch source).1 = true <-> items = []) ∧ keeps (getBatch source).2

namespace Draining

variable {Source Item Batch State : Type} (draining : Draining Source Item Batch)
  (batches : State -> List Batch) (current : State -> Batch) (source : State -> Source)

/-- The loop ends with more batches, which are listed with the items they hold.  The last
source that was asked for a batch had nothing for it. -/
structure Drains (start : Source) (state final : State) (groups : List (List Item × Batch))
    (last : Source) : Prop where
  batches : batches final = batches state ++ groups.map Prod.snd
  held : forall group, group ∈ groups -> draining.holds group.1 group.2 ∧ group.1 ≠ []
  split : (groups.map Prod.fst).flatten ++ draining.queue (source final) = draining.queue start
  kept : draining.keeps last
  asked : draining.getBatch last = (current final, source final)
  left : draining.queue last = draining.queue (source final)
  stopped : draining.isEmpty (current final) = true

variable {draining batches current source} {next : State -> State}

theorem ends (adds : forall state, batches (next state) = batches state ++ [current state])
    (asks : forall state,
      draining.getBatch (source state) = (current (next state), source (next state)))
    {start : Source} {state : State} (kept : draining.keeps start)
    (first : draining.getBatch start = (current state, source state)) :
    Exists fun fuel => Exists fun final =>
      whileLoop (fun state => !draining.isEmpty (current state)) next fuel state = some final ∧
        Exists fun groups => Exists fun last =>
          draining.Drains batches current source start state final groups last := by
  -- by strong induction on the length of the queue
  induction length : (draining.queue start).length using Nat.strongRecOn
    generalizing start state with
  | _ _ ih =>
    rcases draining.takes start kept with ⟨items, taken, holds, empty, keptNext⟩
    rw [first] at taken holds empty keptNext
    dsimp only at taken
    cases stops : draining.isEmpty (current state) with
    | true =>
      rw [empty.mp stops] at taken
      exact ⟨0, state, whileLoop_of_exit (by rw [stops, Bool.not_true]) 0, [], start,
        (List.append_nil _).symm, (fun group member => by cases member), taken, kept, first,
        taken.symm, stops⟩
    | false =>
      have some : items ≠ [] := by
        intro none
        rw [empty.mpr none] at stops
        cases stops
      have shorter : (draining.queue (source state)).length < (draining.queue start).length := by
        have positive := List.length_pos_iff.mpr some
        rw [<- taken, List.length_append]
        omega
      rcases ih _ (length ▸ shorter) keptNext (asks state) rfl with
        ⟨fuel, final, finishes, groups, last, drains⟩
      refine ⟨fuel + 1, final, ?_, (items, current state) :: groups, last, ?_,
        List.forall_mem_cons.mpr ⟨⟨holds, some⟩, drains.held⟩, ?_, drains.kept, drains.asked,
        drains.left, drains.stopped⟩
      · rw [whileLoop_succ_of_guard (by rw [stops, Bool.not_false]), finishes]
      · rw [drains.batches, adds, List.append_assoc]
        rfl
      · rw [List.map_cons, List.flatten_cons, List.append_assoc, drains.split, taken]

end Draining
end Foundations
end Bottlecap
