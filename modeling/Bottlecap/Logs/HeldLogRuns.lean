import Bottlecap.Logs.HoldTermination

namespace Bottlecap
namespace Logs

open Foundations

/-!
# Runs of the log processor

A run is any sequence of the operations that touch the held logs, each of
which returns.  The invariant of the previous module is kept by every
operation, so it holds in every reachable state.

A resolution that finds the function durable makes unlisted exactly the held
requests without a context.  `LeavesRoom` is the condition that these are
fewer than the buffer size.  Along runs that meet it at each resolution, every
call of `hold_log` returns; without it, the number of unlisted requests of the
reached state decides.
-/

/-- The calls that read or write the held logs. -/
inductive LogsOp where
  | queueLogAfterRules (log : IntakeLog)
  | holdLog (requestId : String) (log : IntakeLog)
  | insertToDurableContextMap (requestId : String) (context : DurableExecutionContext)
  | resolveHeldLogsOnDurableFunctionSet (isDurable : Bool)
  | platformInitStart (isDurable : Bool)
  | takeReadyLogs
  | drainHeldLogs

namespace LogsOp

/-- The state after the call, if its loop returns within `fuel` iterations. -/
def apply (env : LogsEnv) (fuel : Nat) (logs : HeldLogs) : LogsOp -> Option HeldLogs
  | queueLogAfterRules log => logs.queueLogAfterRules env fuel log
  | holdLog requestId log => logs.holdLog env fuel requestId log
  | insertToDurableContextMap requestId context =>
    some (logs.insertToDurableContextMap env requestId context)
  | resolveHeldLogsOnDurableFunctionSet isDurable =>
    some (logs.resolveHeldLogsOnDurableFunctionSet env isDurable)
  | platformInitStart isDurable => some (logs.platformInitStart env isDurable)
  | takeReadyLogs => some logs.takeReadyLogs.2
  | drainHeldLogs => some (logs.drainHeldLogs env)

/-- The call resolves the held logs of a function now known to be durable. -/
def resolvesDurable : LogsOp -> Bool
  | resolveHeldLogsOnDurableFunctionSet isDurable => isDurable
  | platformInitStart isDurable => isDurable
  | _ => false

end LogsOp

namespace HeldLogs

variable (env : LogsEnv)

/-- The states reached from the initial one by calls that return and that
`allowed` permits in the state before them. -/
inductive Reachable (allowed : HeldLogs -> LogsOp -> Prop) : HeldLogs -> Prop where
  | new : Reachable allowed HeldLogs.new
  | step {logs after : HeldLogs} {op : LogsOp} (fuel : Nat) : Reachable allowed logs ->
      allowed logs op -> op.apply env fuel logs = some after -> Reachable allowed after

/-- A resolution to durable finds fewer held requests without a durable
context than the buffer has room for. -/
def LeavesRoom (logs : HeldLogs) (op : LogsOp) : Prop :=
  op.resolvesDurable = true -> logs.withoutContext.card < env.lambdaDurableFunctionLogBufferSize

/-! ## What each operation keeps -/

variable {logs : HeldLogs}

theorem queueLogAfterRules_result {after : HeldLogs} {fuel : Nat} {log : IntakeLog}
    (within : logs.WithinBuffer env) (returns : logs.queueLogAfterRules env fuel log = some after) :
    after.WithinBuffer env ∧ after.unlisted ⊆ logs.unlisted := by
  have routed := queueLogAfterRules_routed returns
  generalize logs.queueReleases env log = released at routed
  cases routed with
  | ready | tagged =>
    exact ⟨⟨⟨within.nodup, within.held⟩, within.bounded⟩, Finset.Subset.refl logs.unlisted⟩
  | holds _ returns => exact holdLog_result env within returns

/-- The keys and the order lose the request at most. -/
theorem insertToDurableContextMap_result (requestId : String) (context : DurableExecutionContext)
    (within : logs.WithinBuffer env) :
    (logs.insertToDurableContextMap env requestId context).WithinBuffer env ∧
      (logs.insertToDurableContextMap env requestId context).unlisted ⊆ logs.unlisted := by
  by_cases present : requestId ∈ logs.durableContextMap
  · rw [insertToDurableContextMap, if_pos present]
    exact ⟨within, Finset.Subset.refl _⟩
  · rw [insertToDurableContextMap_eq context present within.held]
    refine ⟨⟨⟨within.nodup.filter _, ?_⟩, ?_⟩, ?_⟩
    · intro id member
      have kept := List.mem_filter.mp member
      exact AList.mem_erase.mpr ⟨bne_iff_ne.mp kept.2, within.held id kept.1⟩
    · change (logs.heldLogs.erase requestId).keys.length <= _
      rw [AList.keys_erase]
      exact Nat.le_trans List.length_erase_le within.bounded
    · intro id member
      rcases mem_unlisted.mp member with ⟨held, absent⟩
      rcases AList.mem_erase.mp held with ⟨different, old⟩
      exact mem_unlisted.mpr ⟨old, fun listed =>
        absent (List.mem_filter.mpr ⟨listed, bne_iff_ne.mpr different⟩)⟩

/-- Nothing is held and nothing is listed. -/
theorem withinBuffer_of_empty (noMap : logs.heldLogs = ∅) (noOrder : logs.heldLogsOrder = []) :
    logs.WithinBuffer env ∧ logs.unlisted = ∅ := by
  refine ⟨⟨⟨?_, ?_⟩, ?_⟩, ?_⟩
  · rw [noOrder]; exact List.nodup_nil
  · rw [noOrder]; intro id member; cases member
  · rw [noMap, AList.keys_empty]; exact Nat.zero_le _
  · rw [unlisted, noMap, AList.keys_empty]; rfl

theorem drainHeldLogs_result (logs : HeldLogs) :
    (logs.drainHeldLogs env).WithinBuffer env ∧ (logs.drainHeldLogs env).unlisted = ∅ := by
  rw [drainHeldLogs_eq]
  exact withinBuffer_of_empty env rfl rfl

/-- Resolving keeps the invariant, and makes unlisted at most the held
requests without a context. -/
theorem resolve_result (isDurable : Bool) (within : logs.WithinBuffer env) :
    (logs.resolveHeldLogsOnDurableFunctionSet env isDurable).WithinBuffer env ∧
      (isDurable = false ->
        (logs.resolveHeldLogsOnDurableFunctionSet env isDurable).unlisted = ∅) ∧
      (logs.resolveHeldLogsOnDurableFunctionSet env isDurable).unlisted ⊆ logs.withoutContext := by
  cases isDurable with
  | false =>
    have same : logs.resolveHeldLogsOnDurableFunctionSet env false = logs.drainHeldLogs env := rfl
    have result := drainHeldLogs_result env logs
    rw [same, result.2]
    exact ⟨result.1, fun _ => rfl, Finset.empty_subset _⟩
  | true =>
    rcases @resolveDurable_eq env logs with ⟨held, lookups, resolved⟩
    rw [resolved]
    have kept : forall id, id ∈ held -> id ∈ logs.withoutContext := by
      intro id member
      rw [<- AList.lookup_isSome, lookups id] at member
      split at member
      · cases member
      · exact mem_withoutContext.mpr ⟨AList.lookup_isSome.mp member, by assumption⟩
    refine ⟨⟨⟨List.nodup_nil, List.forall_mem_nil _⟩, ?_⟩, nofun, ?_⟩
    · rw [keys_length_eq_card]
      refine Nat.le_trans (Finset.card_le_card ?_) (keys_length_eq_card logs ▸ within.bounded)
      intro id member
      have old := kept id (AList.mem_keys.mpr (List.mem_toFinset.mp member))
      exact List.mem_toFinset.mpr (AList.mem_keys.mp (mem_withoutContext.mp old).1)
    · intro id member
      exact kept id (mem_unlisted.mp member).1

/-! ## Whole runs -/

/-- One operation: the invariant is kept, and only a durable resolution can
add unlisted requests. -/
theorem apply_result {after : HeldLogs} {fuel : Nat} (op : LogsOp) (within : logs.WithinBuffer env)
    (returns : op.apply env fuel logs = some after) :
    after.WithinBuffer env ∧
      (op.resolvesDurable = false -> after.unlisted ⊆ logs.unlisted) ∧
      (op.resolvesDurable = true -> after.unlisted ⊆ logs.withoutContext) := by
  cases op with
  | queueLogAfterRules =>
    have result := queueLogAfterRules_result env within returns
    exact ⟨result.1, fun _ => result.2, nofun⟩
  | holdLog =>
    have result := holdLog_result env within returns
    exact ⟨result.1, fun _ => result.2, nofun⟩
  | insertToDurableContextMap requestId context =>
    cases returns
    have result := insertToDurableContextMap_result env requestId context within
    exact ⟨result.1, fun _ => result.2, nofun⟩
  | resolveHeldLogsOnDurableFunctionSet isDurable =>
    cases returns
    have result := resolve_result env isDurable within
    exact ⟨result.1, fun drained => result.2.1 drained ▸ Finset.empty_subset _,
      fun _ => result.2.2⟩
  | platformInitStart isDurable =>
    cases returns
    have flagged : WithinBuffer env { logs with isDurableFunction := some isDurable } :=
      ⟨⟨within.nodup, within.held⟩, within.bounded⟩
    have result := resolve_result env isDurable flagged
    exact ⟨result.1, fun drained => (result.2.1 drained).subset.trans (Finset.empty_subset _),
      fun _ => result.2.2⟩
  | takeReadyLogs =>
    cases returns
    exact ⟨⟨⟨within.nodup, within.held⟩, within.bounded⟩, fun _ => Finset.Subset.refl _, nofun⟩
  | drainHeldLogs =>
    cases returns
    have result := drainHeldLogs_result env logs
    exact ⟨result.1, fun _ => result.2 ▸ Finset.empty_subset _, nofun⟩

theorem Reachable.withinBuffer {allowed : HeldLogs -> LogsOp -> Prop}
    (reachable : Reachable env allowed logs) : logs.WithinBuffer env := by
  induction reachable with
  | new => exact (withinBuffer_of_empty env rfl rfl).1
  | step _ _ _ returns within => exact (apply_result env _ within returns).1

/-- If each durable resolution leaves room, there is always room. -/
theorem Reachable.room (positive : 0 < env.lambdaDurableFunctionLogBufferSize)
    (reachable : Reachable env (LeavesRoom env) logs) :
    logs.unlisted.card < env.lambdaDurableFunctionLogBufferSize := by
  induction reachable with
  | new =>
    exact positive
  | @step _ _ op _ reached permitted returns room =>
    have result := apply_result env op reached.withinBuffer returns
    cases resolves : op.resolvesDurable with
    | false => exact Nat.lt_of_le_of_lt (Finset.card_le_card (result.2.1 resolves)) room
    | true =>
      exact Nat.lt_of_le_of_lt (Finset.card_le_card (result.2.2 resolves))
        (permitted resolves)

/-- `hold_log` returns for every request and log, with the bound on return. -/
def HoldReturns (logs : HeldLogs) : Prop :=
  forall (requestId : String) (log : IntakeLog), Exists fun fuel =>
    Exists fun after => logs.holdLog env fuel requestId log = some after ∧
      after.heldLogs.keys.length <= env.lambdaDurableFunctionLogBufferSize

theorem holdReturns_of_room (within : logs.WithinBuffer env)
    (room : logs.unlisted.card < env.lambdaDurableFunctionLogBufferSize) :
    logs.HoldReturns env := by
  intro requestId log
  rcases holdLog_returns env within.toOrderAgrees room requestId log with ⟨after, returns⟩
  exact ⟨_, after, returns, (holdLog_result env within returns).1.bounded⟩

/-- In every run whose durable resolutions leave room, `hold_log` returns
with at most the buffer size of held requests.  In any reachable state it does
so for all logs exactly when fewer requests are unlisted than the buffer
size. -/
theorem holdLog_returns_of_leavesRoom (positive : 0 < env.lambdaDurableFunctionLogBufferSize) :
    (forall logs, Reachable env (LeavesRoom env) logs -> logs.HoldReturns env) ∧
      forall logs, Reachable env (fun _ _ => True) logs ->
        (logs.HoldReturns env <->
          logs.unlisted.card < env.lambdaDurableFunctionLogBufferSize) := by
  refine ⟨fun logs reachable =>
    holdReturns_of_room env reachable.withinBuffer (reachable.room env positive), ?_⟩
  intro logs reachable
  refine ⟨fun returns => ?_, holdReturns_of_room env reachable.withinBuffer⟩
  apply Nat.lt_of_not_le
  intro full
  rcases Infinite.exists_notMem_finset logs.heldLogs.keys.toFinset with ⟨fresh, absent⟩
  have new : fresh ∉ logs.heldLogs :=
    fun member => absent (List.mem_toFinset.mpr (AList.mem_keys.mp member))
  let log : IntakeLog := ⟨⟨"", ⟨"", none, none, none, none, none⟩, 0, ""⟩, "", "", "", ""⟩
  rcases returns fresh log with ⟨fuel, after, returned, _⟩
  rw [holdLog_diverges env positive full new fuel] at returned
  cases returned

/-! ## A run that fills the buffer -/

/-- A processor with room for `size` requests that serializes a log as its
text. -/
def processorWithRoom (size : Nat) : LogsEnv where
  lambdaDurableFunctionLogBufferSize := size
  isManagedInstanceMode := false
  serialize := fun log => some log.message.message
  iterate := ⟨id, fun entries => List.Perm.refl entries⟩

def functionLog (requestId text : String) : IntakeLog where
  message := ⟨text, ⟨"arn", some requestId, none, none, none, none⟩, 0, "info"⟩
  hostname := "arn"
  service := "service"
  tags := ""
  source := "lambda"

/-- The state after one log of `r1` was held. -/
def firstHeld : HeldLogs :=
  { HeldLogs.new with
    heldLogs := (∅ : HeldMap).insert "r1" [functionLog "r1" "hello"]
    heldLogsOrder := ["r1"] }

/-- The state after the function then turned out to be durable. -/
def heldThenDurable : HeldLogs :=
  { HeldLogs.new with
    isDurableFunction := some true
    heldLogs := (∅ : HeldMap).insert "r1" [functionLog "r1" "hello"] }

theorem firstHeld_reachable {allowed : HeldLogs -> LogsOp -> Prop}
    (queues : forall logs log, allowed logs (.queueLogAfterRules log)) :
    Reachable (processorWithRoom 1) allowed firstHeld :=
  @Reachable.step _ _ _ firstHeld _ 1 .new (queues _ (functionLog "r1" "hello")) rfl

/-- The buffer is full, so that a log of a second request evicts the first. -/
theorem holdLog_returns_of_leavesRoom_full :
    firstHeld.evictionGuard (processorWithRoom 1) = true ∧
      firstHeld.HoldReturns (processorWithRoom 1) := by
  refine ⟨by decide, (holdLog_returns_of_leavesRoom (processorWithRoom 1) (by decide)).1 _ ?_⟩
  apply firstHeld_reachable
  intro logs log resolves
  cases resolves

/-- With room for one request, the log of a second one is never stored. -/
theorem holdLog_diverges_after_durable_resolution :
    ¬ forall env : LogsEnv, 0 < env.lambdaDurableFunctionLogBufferSize ->
      forall logs, Reachable env (fun _ _ => True) logs -> logs.HoldReturns env := by
  intro always
  have reachable : Reachable (processorWithRoom 1) (fun _ _ => True) heldThenDurable :=
    @Reachable.step _ _ firstHeld _ (.platformInitStart true) 0
      (firstHeld_reachable (fun _ _ => trivial)) trivial rfl
  rcases always (processorWithRoom 1) (by decide) heldThenDurable reachable "r2"
    (functionLog "r2" "world") with ⟨fuel, after, returned, _⟩
  have stuck : heldThenDurable.holdLog (processorWithRoom 1) fuel "r2" (functionLog "r2" "world") =
      none :=
    holdLog_diverges (processorWithRoom 1) (by decide) (by decide) (by decide) fuel
  rw [stuck] at returned
  cases returned

end HeldLogs
end Logs
end Bottlecap
