import Mathlib.Data.Finset.Card
import Mathlib.Data.String.Basic
import Mathlib.Data.Fintype.EquivFin
import Bottlecap.Foundations.Lists
import Bottlecap.Logs.Releases

namespace Bottlecap
namespace Logs

open Foundations

/-!
# When holding a log returns

The eviction loop of `hold_log` makes progress only while `held_logs_order`
names a held request.  Every operation keeps the order duplicate free and
inside the held requests, but `resolve_held_logs_on_durable_function_set`
clears the order and puts the requests that stay back into the map alone.
Those requests are *unlisted*: no iteration of the loop can evict them.

The number of unlisted requests therefore decides termination.  Below the
buffer size, the loop always finds a listed request to evict.  From the
buffer size on, the guard holds whatever the loop does, and a log of a new
request is never stored.
-/

namespace HeldLogs

variable (env : LogsEnv)

/-! ## Listed and unlisted requests -/

/-- The held requests that the eviction order does not name. -/
def unlisted (logs : HeldLogs) : Finset String :=
  logs.heldLogs.keys.toFinset.filter (fun id => id ∉ logs.heldLogsOrder)

/-- The held requests whose durable context is not known. -/
def withoutContext (logs : HeldLogs) : Finset String :=
  logs.heldLogs.keys.toFinset.filter (fun id => id ∉ logs.durableContextMap)

variable {logs : HeldLogs} {requestId : String} {log : IntakeLog}

theorem mem_unlisted {id : String} :
    id ∈ logs.unlisted <-> id ∈ logs.heldLogs ∧ id ∉ logs.heldLogsOrder := by
  simp only [unlisted, Finset.mem_filter, List.mem_toFinset, AList.mem_keys]

theorem mem_withoutContext {id : String} :
    id ∈ logs.withoutContext <-> id ∈ logs.heldLogs ∧ id ∉ logs.durableContextMap := by
  simp only [withoutContext, Finset.mem_filter, List.mem_toFinset, AList.mem_keys]

/-- The order and the map agree up to the unlisted requests. -/
structure OrderAgrees (logs : HeldLogs) : Prop where
  nodup : logs.heldLogsOrder.Nodup
  held : forall id, id ∈ logs.heldLogsOrder -> id ∈ logs.heldLogs

/-- What every operation keeps: agreement of order and map, and the bound. -/
structure WithinBuffer (logs : HeldLogs) : Prop extends OrderAgrees logs where
  bounded : logs.heldLogs.keys.length <= env.lambdaDurableFunctionLogBufferSize

theorem keys_length_eq_card (logs : HeldLogs) :
    logs.heldLogs.keys.length = logs.heldLogs.keys.toFinset.card :=
  (List.toFinset_card_of_nodup logs.heldLogs.keys_nodup).symm

theorem unlisted_card_le (logs : HeldLogs) :
    logs.unlisted.card <= logs.heldLogs.keys.length := by
  rw [keys_length_eq_card]
  exact Finset.card_filter_le _ _

/-- If nothing is listed then every held request is unlisted. -/
theorem keys_length_le_unlisted (empty : logs.heldLogsOrder = []) :
    logs.heldLogs.keys.length <= logs.unlisted.card := by
  rw [keys_length_eq_card]
  apply Finset.card_le_card
  intro id member
  rw [mem_unlisted, empty]
  exact ⟨AList.mem_keys.mpr (List.mem_toFinset.mp member), List.not_mem_nil⟩

/-! ## One iteration of the loop -/

/-- Evicting a listed request keeps agreement and the set of unlisted ones. -/
theorem evictOldest_agrees {oldest : String} {rest : List String}
    (order : logs.heldLogsOrder = oldest :: rest) (agrees : logs.OrderAgrees) :
    (logs.evictOldest env).OrderAgrees ∧ (logs.evictOldest env).unlisted = logs.unlisted := by
  have held := agrees.held oldest (by rw [order]; exact List.mem_cons_self)
  have distinct := List.nodup_cons.mp (order ▸ agrees.nodup)
  rw [evictOldest_eq order held]
  refine ⟨⟨distinct.2, ?_⟩, ?_⟩
  · intro id member
    refine AList.mem_erase.mpr ⟨fun same => distinct.1 (same ▸ member), agrees.held id ?_⟩
    rw [order]
    exact List.mem_cons_of_mem oldest member
  · ext id
    rw [mem_unlisted, mem_unlisted, order, List.mem_cons]
    change id ∈ logs.heldLogs.erase oldest ∧ id ∉ rest <-> _
    rw [AList.mem_erase]
    tauto

/-- Below the buffer size of unlisted requests, a loop that has to continue
has a listed request to evict. -/
theorem order_nonempty_of_guard (room : logs.unlisted.card < env.lambdaDurableFunctionLogBufferSize)
    (continues : logs.evictionGuard env = true) :
    Exists fun oldest => Exists fun rest => logs.heldLogsOrder = oldest :: rest := by
  have full := of_decide_eq_true continues
  cases order : logs.heldLogsOrder with
  | nil =>
    have bound := keys_length_le_unlisted order
    exact absurd (Nat.lt_of_le_of_lt (Nat.le_trans full bound) room) (Nat.lt_irrefl _)
  | cons oldest rest => exact ⟨oldest, rest, rfl⟩

/-- The loop returns within as many iterations as requests are listed. -/
theorem eviction_returns (agrees : logs.OrderAgrees)
    (room : logs.unlisted.card < env.lambdaDurableFunctionLogBufferSize) :
    Exists fun evicted =>
      whileLoop (evictionGuard env) (evictOldest env) logs.heldLogsOrder.length logs =
        some evicted := by
  refine whileLoop_of_measure
    (fun current => current.OrderAgrees ∧
      current.unlisted.card < env.lambdaDurableFunctionLogBufferSize)
    (fun current => current.heldLogsOrder.length) ?_ _ ⟨agrees, room⟩ (Nat.le_refl _)
  rintro current continues ⟨currentAgrees, currentRoom⟩
  rcases order_nonempty_of_guard env currentRoom continues with ⟨oldest, rest, order⟩
  have kept := evictOldest_agrees env order currentAgrees
  have held := currentAgrees.held oldest (by rw [order]; exact List.mem_cons_self)
  refine ⟨⟨kept.1, by rw [kept.2]; exact currentRoom⟩, ?_⟩
  rw [evictOldest_eq order held, order]
  exact Nat.lt_succ_self _

/-- From the buffer size of unlisted requests on, the loop never returns. -/
theorem eviction_diverges {evicted : HeldLogs}
    (full : env.lambdaDurableFunctionLogBufferSize <= logs.unlisted.card) :
    ¬ LoopEnds (evictionGuard env) (evictOldest env) logs evicted := by
  -- The unlisted requests of the initial state stay held and unlisted.
  refine not_loopEnds_of_trap (fun current => logs.unlisted ⊆ current.unlisted) ?_
    (Finset.Subset.refl _)
  intro current included
  have many := Nat.le_trans (Nat.le_trans full (Finset.card_le_card included))
    (unlisted_card_le current)
  refine ⟨decide_eq_true many, ?_⟩
  intro id member
  have old := mem_unlisted.mp (included member)
  unfold evictOldest
  cases order : current.heldLogsOrder with
  | nil => exact included member
  | cons oldest rest =>
    rw [order] at old
    have absent : id ∉ rest := fun later => old.2 (List.mem_cons_of_mem oldest later)
    have different : id ≠ oldest := fun same => old.2 (same ▸ List.mem_cons_self)
    cases found : current.heldLogs.lookup oldest with
    | none =>
      rw [mem_unlisted]
      simp only [found]
      exact ⟨old.1, absent⟩
    | some =>
      rw [mem_unlisted]
      simp only [found, foldl_pushReady_eq_emit]
      exact ⟨AList.mem_erase.mpr ⟨different, old.1⟩, absent⟩

/-- With at most as many requests held as the buffer has room for, one eviction
ends the loop, and it can only end if some request is listed. -/
theorem eviction_ends {fuel : Nat} (within : logs.WithinBuffer env)
    (full : logs.evictionGuard env = true) {evicted : HeldLogs}
    (ends : whileLoop (evictionGuard env) (evictOldest env) fuel logs = some evicted) :
    Exists fun oldest => Exists fun rest =>
      logs.heldLogsOrder = oldest :: rest ∧ oldest ∈ logs.heldLogs ∧
        evicted.evictionGuard env = false ∧ evicted = logs.evictOldest env := by
  cases order : logs.heldLogsOrder with
  | nil =>
    have many := keys_length_le_unlisted order
    have size := of_decide_eq_true full
    exact absurd ⟨fuel, ends⟩ (eviction_diverges env (Nat.le_trans size many))
  | cons oldest rest =>
    have held := within.held oldest (by rw [order]; exact List.mem_cons_self)
    -- The map loses one key, which is enough to leave the loop.
    have exits : (logs.evictOldest env).evictionGuard env = false := by
      rw [evictOldest_eq order held]
      apply decide_eq_false
      change ¬ _ <= (logs.heldLogs.erase oldest).keys.length
      have listed := AList.mem_keys.mp held
      have positive := List.length_pos_of_mem listed
      have bounded := within.bounded
      rw [AList.keys_erase, List.length_erase_of_mem listed]
      omega
    cases fuel with
    | zero =>
      rw [whileLoop, if_pos full] at ends
      cases ends
    | succ =>
      rw [whileLoop_succ_of_guard full, whileLoop_of_exit exits] at ends
      cases ends
      exact ⟨oldest, rest, rfl, held, exits, rfl⟩

/-! ## The calls that hold a log -/

/-- `hold_log` returns whenever fewer requests are unlisted than the buffer
has room for. -/
theorem holdLog_returns (agrees : logs.OrderAgrees)
    (room : logs.unlisted.card < env.lambdaDurableFunctionLogBufferSize) (requestId : String)
    (log : IntakeLog) :
    Exists fun after => logs.holdLog env logs.heldLogsOrder.length requestId log = some after := by
  unfold holdLog
  split
  · exact ⟨_, rfl⟩
  · split
    · exact ⟨_, rfl⟩
    · rcases eviction_returns env agrees room with ⟨evicted, ends⟩
      rw [ends]
      exact ⟨_, rfl⟩

theorem mem_appendHeld {id : String} :
    id ∈ (logs.appendHeld requestId log).heldLogs <-> id = requestId ∨ id ∈ logs.heldLogs :=
  AList.mem_insert logs.heldLogs

/-- Storing a log of a request that is already held changes no key. -/
theorem appendHeld_held (log : IntakeLog) (held : requestId ∈ logs.heldLogs) :
    (forall id, id ∈ (logs.appendHeld requestId log).heldLogs <-> id ∈ logs.heldLogs) ∧
      (logs.appendHeld requestId log).heldLogs.keys.length = logs.heldLogs.keys.length := by
  constructor
  · intro id
    rw [mem_appendHeld]
    constructor
    · rintro (same | member)
      · exact same ▸ held
      · exact member
    · exact Or.inr
  · have listed := AList.mem_keys.mp held
    change (logs.heldLogs.insert requestId _).keys.length = _
    rw [AList.keys_insert, List.length_cons, List.length_erase_of_mem listed]
    have positive := List.length_pos_of_mem listed
    omega

/-- A new request that is stored with room for it is listed. -/
theorem store_result (agrees : logs.OrderAgrees)
    (room : logs.heldLogs.keys.length < env.lambdaDurableFunctionLogBufferSize)
    (fresh : requestId ∉ logs.heldLogs) (log : IntakeLog) :
    (appendHeld requestId log { logs with
        heldLogsOrder := logs.heldLogsOrder ++ [requestId] }).WithinBuffer env ∧
      (appendHeld requestId log { logs with
        heldLogsOrder := logs.heldLogsOrder ++ [requestId] }).unlisted ⊆ logs.unlisted := by
  refine ⟨⟨⟨?_, ?_⟩, ?_⟩, ?_⟩
  · exact nodup_snoc agrees.nodup (fun listed => fresh (agrees.held requestId listed))
  · intro id member
    rw [mem_appendHeld]
    exact (List.mem_append.mp member).symm.imp List.mem_singleton.mp (agrees.held id)
  · change (logs.heldLogs.insert requestId _).keys.length <= _
    rw [AList.keys_insert]
    exact Nat.succ_le_of_lt (Nat.lt_of_le_of_lt List.length_erase_le room)
  · intro id member
    rw [mem_unlisted, mem_appendHeld] at member
    rw [mem_unlisted]
    change _ ∧ id ∉ logs.heldLogsOrder ++ [requestId] at member
    rw [List.mem_append, List.mem_singleton] at member
    tauto

/-- A returning `hold_log` keeps the invariant and lists what it stores. -/
theorem holdLog_result {after : HeldLogs} {fuel : Nat} (within : logs.WithinBuffer env)
    (returns : logs.holdLog env fuel requestId log = some after) :
    after.WithinBuffer env ∧ after.unlisted ⊆ logs.unlisted := by
  unfold holdLog at returns
  split at returns
  · cases returns
    exact ⟨within, Finset.Subset.refl _⟩
  · split at returns
    next held =>
      cases returns
      have keys := appendHeld_held log held
      refine ⟨⟨⟨within.nodup, ?_⟩, ?_⟩, ?_⟩
      · intro id member
        exact (keys.1 id).mpr (within.held id member)
      · rw [keys.2]
        exact within.bounded
      · intro id member
        have old := mem_unlisted.mp member
        exact mem_unlisted.mpr ⟨(keys.1 id).mp old.1, old.2⟩
    next fresh =>
      rcases Option.map_eq_some_iff.mp returns with ⟨evicted, ends, rfl⟩
      cases full : logs.evictionGuard env with
      | false =>
        rw [whileLoop_of_exit full] at ends
        cases ends
        exact store_result env within.toOrderAgrees (Nat.lt_of_not_le (of_decide_eq_false full))
          fresh log
      | true =>
        rcases eviction_ends env within full ends with ⟨oldest, rest, order, held, exits, rfl⟩
        have kept := evictOldest_agrees env order within.toOrderAgrees
        rw [<- kept.2]
        exact store_result env kept.1 (Nat.lt_of_not_le (of_decide_eq_false exits)) (fun again =>
          fresh (AList.mem_erase.mp (evictOldest_eq order held ▸ again)).2) log

/-- With enough unlisted requests, a log of any new request hangs the call. -/
theorem holdLog_diverges (positive : 0 < env.lambdaDurableFunctionLogBufferSize)
    (full : env.lambdaDurableFunctionLogBufferSize <= logs.unlisted.card)
    (fresh : requestId ∉ logs.heldLogs) (fuel : Nat) :
    logs.holdLog env fuel requestId log = none := by
  have enabled : env.lambdaDurableFunctionLogBufferSize ≠ 0 := Nat.pos_iff_ne_zero.mp positive
  unfold holdLog
  rw [if_neg enabled, if_neg fresh]
  cases ends : whileLoop (evictionGuard env) (evictOldest env) fuel logs with
  | none => rfl
  | some => exact absurd ⟨fuel, ends⟩ (eviction_diverges env full)

end HeldLogs
end Logs
end Bottlecap
