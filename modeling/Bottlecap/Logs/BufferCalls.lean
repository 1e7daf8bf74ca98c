import Bottlecap.Logs.HeldLogRuns

namespace Bottlecap
namespace Logs

open Foundations

/-!
# What each call makes ready

The rest of the processor reaches the held logs through five calls.  `hold_log`
and `resolve_held_logs_on_durable_function_set` are only called inside them, and
the flag is set right before the latter.

`releases` lists, for a call and the state before it, the logs that become ready,
each with the context it is tagged with.  `Effect` says once what a call can do:
every result about runs is a case analysis of it.
-/

/-- The calls through which the rest of the processor reaches the held logs. -/
inductive BufferCall where
  | queueLogAfterRules (log : IntakeLog)
  | insertToDurableContextMap (requestId : String) (context : DurableExecutionContext)
  | platformInitStart (isDurable : Bool)
  | takeReadyLogs
  | drainHeldLogs

def BufferCall.op : BufferCall -> LogsOp
  | queueLogAfterRules log => .queueLogAfterRules log
  | insertToDurableContextMap requestId context =>
    .insertToDurableContextMap requestId context
  | platformInitStart isDurable => .platformInitStart isDurable
  | takeReadyLogs => .takeReadyLogs
  | drainHeldLogs => .drainHeldLogs

/-- The logs that the call makes ready, in this order. -/
def BufferCall.releases (env : LogsEnv) (logs : HeldLogs) : BufferCall -> List Release
  | queueLogAfterRules log => logs.queueReleases env log
  | insertToDurableContextMap requestId context =>
    if requestId ∈ logs.durableContextMap then []
    else (logs.heldFor requestId).map (Release.tagged context)
  | platformInitStart isDurable =>
    if isDurable then logs.resolveReleases env else logs.drainReleases env
  | takeReadyLogs => []
  | drainHeldLogs => logs.drainReleases env

namespace HeldLogs

variable (env : LogsEnv)

/-- What a call of the processor does to the buffers and what it releases. -/
inductive Effect (logs : HeldLogs) : BufferCall -> List Release -> HeldLogs -> Prop where
  | ready {log : IntakeLog} (passes : logs.Passes env log) :
      Effect logs (.queueLogAfterRules log) [Release.untagged log]
        (logs.emit env [Release.untagged log])
  | tagged {log : IntakeLog} {requestId : String} {context : DurableExecutionContext}
      (plain : log.message.lambda.durableExecutionId = none)
      (durable : logs.isDurableFunction = some true)
      (request : log.message.lambda.requestId = some requestId)
      (known : logs.durableContextMap.lookup requestId = some context) :
      Effect logs (.queueLogAfterRules log) [Release.tagged context log]
        (logs.emit env [Release.tagged context log])
  | append {log : IntakeLog} {requestId : String} (waits : logs.Waits env log requestId)
      (held : requestId ∈ logs.heldLogs) :
      Effect logs (.queueLogAfterRules log) [] (logs.appendHeld requestId log)
  | store {log : IntakeLog} {requestId : String} (waits : logs.Waits env log requestId)
      (fresh : requestId ∉ logs.heldLogs) (room : logs.evictionGuard env = false) :
      Effect logs (.queueLogAfterRules log) []
        (appendHeld requestId log { logs with heldLogsOrder := logs.heldLogsOrder ++ [requestId] })
  | evict {log : IntakeLog} {requestId oldest : String} {rest : List String}
      (waits : logs.Waits env log requestId) (fresh : requestId ∉ logs.heldLogs)
      (full : logs.evictionGuard env = true) (order : logs.heldLogsOrder = oldest :: rest)
      (held : oldest ∈ logs.heldLogs) :
      Effect logs (.queueLogAfterRules log)
        ((logs.heldFor oldest).map Release.untagged)
        (appendHeld requestId log (emit env ((logs.heldFor oldest).map Release.untagged) { logs with
          heldLogs := logs.heldLogs.erase oldest
          heldLogsOrder := rest ++ [requestId] }))
  | known {requestId : String} {context : DurableExecutionContext}
      (present : requestId ∈ logs.durableContextMap) :
      Effect logs (.insertToDurableContextMap requestId context) [] logs
  | insert {requestId : String} {context : DurableExecutionContext}
      (absent : requestId ∉ logs.durableContextMap) :
      Effect logs (.insertToDurableContextMap requestId context)
        ((logs.heldFor requestId).map (Release.tagged context))
        (emit env ((logs.heldFor requestId).map (Release.tagged context))
          (logs.withContext requestId context))
  | resolve {held : HeldMap} (kept : forall id, held.lookup id =
        if id ∈ logs.durableContextMap then none else logs.heldLogs.lookup id) :
      Effect logs (.platformInitStart true) (logs.resolveReleases env)
        (emit env (logs.resolveReleases env) { logs with
          isDurableFunction := some true
          heldLogs := held
          heldLogsOrder := [] })
  | release : Effect logs (.platformInitStart false) (logs.drainReleases env)
        (emit env (logs.drainReleases env) { logs with
          isDurableFunction := some false
          heldLogs := ∅
          heldLogsOrder := [] })
  | take : Effect logs .takeReadyLogs [] { logs with readyLogs := [] }
  | drain : Effect logs .drainHeldLogs (logs.drainReleases env)
        (emit env (logs.drainReleases env) { logs with heldLogs := ∅, heldLogsOrder := [] })

variable {env} {logs after : HeldLogs} {fuel : Nat}

/-- A returning `hold_log` of a new request evicts the first listed one if the
buffer is full. -/
theorem holdLog_evicts {requestId : String} {log : IntakeLog} (within : logs.WithinBuffer env)
    (enabled : env.lambdaDurableFunctionLogBufferSize ≠ 0) (fresh : requestId ∉ logs.heldLogs)
    (full : logs.evictionGuard env = true)
    (returns : logs.holdLog env fuel requestId log = some after) :
    Exists fun oldest => Exists fun rest =>
      logs.heldLogsOrder = oldest :: rest ∧ oldest ∈ logs.heldLogs ∧
        after = appendHeld requestId log (emit env ((logs.heldFor oldest).map Release.untagged)
          { logs with
            heldLogs := logs.heldLogs.erase oldest
            heldLogsOrder := rest ++ [requestId] }) := by
  rw [holdLog, if_neg enabled, if_neg fresh] at returns
  rcases Option.map_eq_some_iff.mp returns with ⟨evicted, ends, rfl⟩
  rcases eviction_ends env within full ends with ⟨oldest, rest, order, listed, _, rfl⟩
  exact ⟨oldest, rest, order, listed, by rw [evictOldest_eq order listed]; rfl⟩

/-- A returning `hold_log` stores the log, after at most one eviction. -/
theorem holdLog_effect {requestId : String} {log : IntakeLog} (within : logs.WithinBuffer env)
    (waits : logs.Waits env log requestId)
    (returns : logs.holdLog env fuel requestId log = some after) :
    Effect env logs (.queueLogAfterRules log)
      ((logs.evictedFor env requestId).map Release.untagged) after := by
  by_cases held : requestId ∈ logs.heldLogs
  · rw [holdLog, if_neg waits.enabled, if_pos held] at returns
    obtain rfl := Option.some.inj returns
    rw [evictedFor, if_pos held]
    exact .append waits held
  · cases full : logs.evictionGuard env with
    | false =>
      rw [holdLog, if_neg waits.enabled, if_neg held, whileLoop_of_exit full] at returns
      obtain rfl := Option.some.inj returns
      rw [evictedFor, if_neg held, full]
      exact .store waits held full
    | true =>
      rcases holdLog_evicts within waits.enabled held full returns with
        ⟨oldest, rest, order, listed, rfl⟩
      rw [evictedFor, if_neg held, full, order]
      exact .evict waits held full order listed

theorem queueLogAfterRules_effect {log : IntakeLog} (within : logs.WithinBuffer env)
    (returns : logs.queueLogAfterRules env fuel log = some after) :
    Effect env logs (.queueLogAfterRules log) (logs.queueReleases env log) after := by
  have routed := queueLogAfterRules_routed returns
  generalize logs.queueReleases env log = released at routed ⊢
  cases routed with
  | ready passes => exact .ready passes
  | tagged plain durable request known => exact .tagged plain durable request known
  | holds waits returns => exact holdLog_effect within waits returns

theorem insertToDurableContextMap_effect (requestId : String) (context : DurableExecutionContext)
    (listed : forall id, id ∈ logs.heldLogsOrder -> id ∈ logs.heldLogs) :
    Effect env logs (BufferCall.insertToDurableContextMap requestId context)
      ((BufferCall.insertToDurableContextMap requestId context).releases env logs)
      (logs.insertToDurableContextMap env requestId context) := by
  rw [BufferCall.releases]
  by_cases present : requestId ∈ logs.durableContextMap
  · rw [if_pos present, insertToDurableContextMap, if_pos present]
    exact Effect.known present
  · rw [if_neg present, insertToDurableContextMap_eq context present listed]
    exact Effect.insert present

theorem platformInitStart_effect (isDurable : Bool) (logs : HeldLogs) :
    Effect env logs (.platformInitStart isDurable)
      ((BufferCall.platformInitStart isDurable).releases env logs)
      (logs.platformInitStart env isDurable) := by
  cases isDurable with
  | false =>
    have drained := @drainHeldLogs_eq env { logs with isDurableFunction := some false }
    change Effect _ _ _ _ (drainHeldLogs env _)
    rw [drained]
    exact .release
  | true =>
    rcases @resolveDurable_eq env { logs with isDurableFunction := some true } with
      ⟨held, kept, resolved⟩
    change Effect _ _ _ _ (resolveHeldLogsOnDurableFunctionSet env true _)
    rw [resolved]
    exact .resolve kept

/-- One call: everything it can do, from a state within the buffer. -/
theorem apply_effect {call : BufferCall} (within : logs.WithinBuffer env)
    (returns : call.op.apply env fuel logs = some after) :
    Effect env logs call (call.releases env logs) after := by
  cases call with
  | queueLogAfterRules => exact queueLogAfterRules_effect within returns
  | insertToDurableContextMap requestId context =>
    obtain rfl := Option.some.inj returns
    exact insertToDurableContextMap_effect requestId context within.held
  | platformInitStart isDurable =>
    obtain rfl := Option.some.inj returns
    exact platformInitStart_effect isDurable logs
  | takeReadyLogs =>
    obtain rfl := Option.some.inj returns
    exact .take
  | drainHeldLogs =>
    obtain rfl := Option.some.inj returns
    rw [drainHeldLogs_eq]
    exact .drain

end HeldLogs
end Logs
end Bottlecap
