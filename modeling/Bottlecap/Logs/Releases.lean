import Mathlib.Data.List.AList
import Bottlecap.Logs.HeldLogs

namespace Bottlecap
namespace Logs

open Foundations

/-!
# Released logs

In whatever way a log becomes ready, its text is appended to the ready logs, with the
attributes of a durable context or without.  `emit` does that for a list of releases.
The equations say of each operation on the held logs what it emits and what it leaves
in the buffers, and `Routed` where a new log goes.
-/

/-- A log that became ready, with the context it was tagged with. -/
structure Release where
  log : IntakeLog
  context : Option DurableExecutionContext

namespace Release

def untagged (log : IntakeLog) : Release := ⟨log, none⟩

def tagged (context : DurableExecutionContext) (log : IntakeLog) : Release := ⟨log, some context⟩

/-- The log as it is serialized. -/
def sent (env : LogsEnv) (release : Release) : IntakeLog :=
  match release.context with
  | none => release.log
  | some context => HeldLogs.withDurableContext env context release.log

/-- What `ready_logs` gets, if the log can be serialized. -/
def text (env : LogsEnv) (release : Release) : Option String :=
  env.serialize (release.sent env)

end Release

namespace HeldLogs

variable (env : LogsEnv)

/-- The logs held for a request. -/
def heldFor (requestId : String) (logs : HeldLogs) : List IntakeLog :=
  (logs.heldLogs.lookup requestId).getD []

/-- The logs that `hold_log` evicts before it stores a log of `requestId`. -/
def evictedFor (requestId : String) (logs : HeldLogs) : List IntakeLog :=
  if requestId ∈ logs.heldLogs then []
  else if logs.evictionGuard env then
    match logs.heldLogsOrder with
    | [] => []
    | oldest :: _ => logs.heldFor oldest
  else []

def queueReleases (log : IntakeLog) (logs : HeldLogs) : List Release :=
  if log.message.lambda.durableExecutionId.isSome then
    [Release.untagged log]
  else if env.lambdaDurableFunctionLogBufferSize = 0 then
    [Release.untagged log]
  else
    match logs.isDurableFunction with
    | none =>
      match log.message.lambda.requestId with
      | some requestId => (logs.evictedFor env requestId).map Release.untagged
      | none => [Release.untagged log]
    | some false => [Release.untagged log]
    | some true =>
      match log.message.lambda.requestId.bind (fun id => logs.durableContextMap.lookup id) with
      | some context => [Release.tagged context log]
      | none =>
        match log.message.lambda.requestId with
        | some requestId => (logs.evictedFor env requestId).map Release.untagged
        | none => [Release.untagged log]

/-- The entries of the held map in the order in which a loop over it sees them. -/
def arranged (logs : HeldLogs) : List (Sigma fun _ : String => List IntakeLog) :=
  env.iterate.arrange logs.heldLogs.entries

def drainReleases (logs : HeldLogs) : List Release :=
  (logs.arranged env).flatMap (fun entry => entry.2.map Release.untagged)

def resolveReleases (logs : HeldLogs) : List Release :=
  (logs.arranged env).flatMap (fun entry =>
    match logs.durableContextMap.lookup entry.1 with
    | some context => entry.2.map (Release.tagged context)
    | none => [])

/-- The buffers with the texts of the released logs appended to the ready logs. -/
def emit (released : List Release) (logs : HeldLogs) : HeldLogs :=
  { logs with readyLogs := logs.readyLogs ++ released.filterMap (Release.text env) }

theorem emit_nil (logs : HeldLogs) : logs.emit env [] = logs := by
  rw [emit, List.filterMap_nil, List.append_nil]

theorem emit_append (first second : List Release) (logs : HeldLogs) :
    logs.emit env (first ++ second) = (logs.emit env first).emit env second := by
  rw [emit, List.filterMap_append, <- List.append_assoc]
  rfl

theorem pushReady_eq_emit (logs : HeldLogs) (log : IntakeLog) :
    logs.pushReady env log = logs.emit env [Release.untagged log] := by
  have sameText : (Release.untagged log).text env = env.serialize log := rfl
  rw [pushReady, emit, List.filterMap_cons, sameText]
  cases env.serialize log with
  | none => rw [List.filterMap_nil, List.append_nil]
  | some => rfl

theorem markReady_eq_emit (context : DurableExecutionContext) (logs : HeldLogs)
    (log : IntakeLog) :
    logs.setDurableContextAndMarkReady env context log =
      logs.emit env [Release.tagged context log] :=
  pushReady_eq_emit env logs (withDurableContext env context log)

/-- A loop whose body emits one release emits the releases of its list. -/
theorem foldl_eq_emit {body : HeldLogs -> IntakeLog -> HeldLogs} {release : IntakeLog -> Release}
    (emits : forall logs log, body logs log = logs.emit env [release log])
    (held : List IntakeLog) (logs : HeldLogs) :
    held.foldl body logs = logs.emit env (held.map release) := by
  induction held generalizing logs with
  | nil => exact (emit_nil env logs).symm
  | cons _ _ ih =>
    rw [List.foldl_cons, ih, emits, <- emit_append]
    rfl

theorem foldl_pushReady_eq_emit (held : List IntakeLog) (logs : HeldLogs) :
    held.foldl (pushReady env) logs = logs.emit env (held.map Release.untagged) :=
  foldl_eq_emit env (pushReady_eq_emit env) held logs

theorem foldl_markReady_eq_emit (context : DurableExecutionContext) (held : List IntakeLog)
    (logs : HeldLogs) :
    held.foldl (setDurableContextAndMarkReady env context) logs =
      logs.emit env (held.map (Release.tagged context)) :=
  foldl_eq_emit env (markReady_eq_emit env context) held logs

/-- The log becomes ready as it is. -/
def Passes (logs : HeldLogs) (log : IntakeLog) : Prop :=
  log.message.lambda.durableExecutionId.isSome = true ∨
    env.lambdaDurableFunctionLogBufferSize = 0 ∨ logs.isDurableFunction = some false ∨
    log.message.lambda.requestId = none

/-- The log has to wait: it is held for its request. -/
structure Waits (logs : HeldLogs) (log : IntakeLog) (requestId : String) : Prop where
  enabled : env.lambdaDurableFunctionLogBufferSize ≠ 0
  plain : log.message.lambda.durableExecutionId = none
  request : log.message.lambda.requestId = some requestId
  undecided : logs.isDurableFunction = none ∨
    logs.isDurableFunction = some true ∧ requestId ∉ logs.durableContextMap

/-- The durable contexts after the oldest one was evicted, if they were at
capacity. -/
def trimmed (logs : HeldLogs) : HeldLogs :=
  if durableContextMapCapacity <= logs.durableContextOrder.length then
    match logs.durableContextOrder with
    | [] => logs
    | oldest :: rest => { logs with
        durableContextOrder := rest
        durableContextMap := logs.durableContextMap.erase oldest }
  else logs

/-- The state from which a new context of `requestId` releases its logs. -/
def withContext (requestId : String) (context : DurableExecutionContext) (logs : HeldLogs) :
    HeldLogs :=
  { logs with
    heldLogs := logs.heldLogs.erase requestId
    heldLogsOrder := logs.heldLogsOrder.filter (fun other => other != requestId)
    durableContextOrder := logs.trimmed.durableContextOrder ++ [requestId]
    durableContextMap := logs.trimmed.durableContextMap.insert requestId context }

/-- Where a log goes that the rules have passed. -/
inductive Routed (logs : HeldLogs) (fuel : Nat) (log : IntakeLog) :
    List Release -> HeldLogs -> Prop where
  | ready (passes : logs.Passes env log) :
      Routed logs fuel log [Release.untagged log] (logs.emit env [Release.untagged log])
  | tagged {requestId : String} {context : DurableExecutionContext}
      (plain : log.message.lambda.durableExecutionId = none)
      (durable : logs.isDurableFunction = some true)
      (request : log.message.lambda.requestId = some requestId)
      (known : logs.durableContextMap.lookup requestId = some context) :
      Routed logs fuel log [Release.tagged context log] (logs.emit env [Release.tagged context log])
  | holds {requestId : String} {after : HeldLogs} (waits : logs.Waits env log requestId)
      (returns : logs.holdLog env fuel requestId log = some after) :
      Routed logs fuel log ((logs.evictedFor env requestId).map Release.untagged) after

variable {env} {logs : HeldLogs}

theorem queueLogAfterRules_routed {after : HeldLogs} {fuel : Nat} {log : IntakeLog}
    (returns : logs.queueLogAfterRules env fuel log = some after) :
    Routed env logs fuel log (logs.queueReleases env log) after := by
  have ready : logs.Passes env log -> some (logs.pushReady env log) = some after ->
      Routed env logs fuel log [Release.untagged log] after := by
    intro passes pushed
    rw [pushReady_eq_emit] at pushed
    obtain rfl := Option.some.inj pushed
    exact .ready passes
  rw [queueLogAfterRules] at returns
  rw [queueReleases]
  split at returns
  next own =>
    rw [if_pos own]
    exact ready (Or.inl own) returns
  next plain =>
    rw [if_neg plain]
    have none_ := Option.not_isSome_iff_eq_none.mp plain
    split at returns
    next disabled =>
      rw [if_pos disabled]
      exact ready (Or.inr (Or.inl disabled)) returns
    next enabled =>
      rw [if_neg enabled]
      cases flag : logs.isDurableFunction with
      | none =>
        simp only [flag] at returns ⊢
        cases request : log.message.lambda.requestId with
        | none =>
          simp only [request] at returns ⊢
          exact ready (Or.inr (Or.inr (Or.inr request))) returns
        | some =>
          simp only [request] at returns ⊢
          exact .holds ⟨enabled, none_, request, Or.inl flag⟩ returns
      | some durable =>
        cases durable with
        | false =>
          simp only [flag] at returns ⊢
          exact ready (Or.inr (Or.inr (Or.inl flag))) returns
        | true =>
          simp only [flag] at returns ⊢
          cases request : log.message.lambda.requestId with
          | none =>
            simp only [request] at returns ⊢
            exact ready (Or.inr (Or.inr (Or.inr request))) returns
          | some requestId =>
            simp only [request, Option.bind_some] at returns ⊢
            cases known : logs.durableContextMap.lookup requestId with
            | none =>
              simp only [known] at returns ⊢
              have unknown := AList.lookup_eq_none.mp known
              exact .holds ⟨enabled, none_, request, Or.inr ⟨flag, unknown⟩⟩ returns
            | some =>
              simp only [known] at returns ⊢
              rw [markReady_eq_emit] at returns
              obtain rfl := Option.some.inj returns
              exact .tagged none_ flag request known

/-! ## Operations -/

theorem evictOldest_eq {oldest : String} {rest : List String}
    (order : logs.heldLogsOrder = oldest :: rest) (held : oldest ∈ logs.heldLogs) :
    logs.evictOldest env = emit env ((logs.heldFor oldest).map Release.untagged) { logs with
      heldLogs := logs.heldLogs.erase oldest
      heldLogsOrder := rest } := by
  rcases Option.isSome_iff_exists.mp (AList.lookup_isSome.mpr held) with ⟨evicted, found⟩
  simp only [evictOldest, order, found, heldFor]
  exact foldl_pushReady_eq_emit env evicted _

/-- Draining a request that has a context, also when none of its logs are held. -/
theorem drainHeldLogsForRequestId_eq {requestId : String} (context : DurableExecutionContext)
    (known : logs.durableContextMap.lookup requestId = some context)
    (listed : forall id, id ∈ logs.heldLogsOrder -> id ∈ logs.heldLogs) :
    logs.drainHeldLogsForRequestId env requestId =
      emit env ((logs.heldFor requestId).map (Release.tagged context)) { logs with
        heldLogs := logs.heldLogs.erase requestId
        heldLogsOrder := logs.heldLogsOrder.filter (fun other => other != requestId) } := by
  cases found : logs.heldLogs.lookup requestId with
  | none =>
    have absent := AList.lookup_eq_none.mp found
    have sameMap : logs.heldLogs.erase requestId = logs.heldLogs :=
      AList.ext (List.kerase_of_notMem_keys absent)
    have sameOrder : logs.heldLogsOrder.filter (fun other => other != requestId) =
        logs.heldLogsOrder := by
      apply List.filter_eq_self.mpr
      intro id member
      exact bne_iff_ne.mpr (fun same => absent (same ▸ listed id member))
    simp only [drainHeldLogsForRequestId, heldFor, found, Option.getD_none, List.map_nil]
    rw [emit_nil, sameMap, sameOrder]
  | some held =>
    simp only [drainHeldLogsForRequestId, heldFor, found, known]
    exact foldl_markReady_eq_emit env context held _

theorem trimmed_fields (logs : HeldLogs) : logs.trimmed = { logs with
    durableContextOrder := logs.trimmed.durableContextOrder
    durableContextMap := logs.trimmed.durableContextMap } := by
  rw [trimmed]
  split
  · split <;> rfl
  · rfl

/-- A new context releases the logs of its request. -/
theorem insertToDurableContextMap_eq {requestId : String} (context : DurableExecutionContext)
    (absent : requestId ∉ logs.durableContextMap)
    (listed : forall id, id ∈ logs.heldLogsOrder -> id ∈ logs.heldLogs) :
    logs.insertToDurableContextMap env requestId context =
      emit env ((logs.heldFor requestId).map (Release.tagged context))
        (logs.withContext requestId context) := by
  -- Trimming touches the contexts only.
  let inserted : HeldLogs := { logs with
    durableContextOrder := logs.trimmed.durableContextOrder ++ [requestId]
    durableContextMap := logs.trimmed.durableContextMap.insert requestId context }
  have before : ({ logs.trimmed with
      durableContextOrder := inserted.durableContextOrder
      durableContextMap := inserted.durableContextMap } : HeldLogs) = inserted := by
    rw [trimmed_fields logs]
  have drained : logs.insertToDurableContextMap env requestId context =
      inserted.drainHeldLogsForRequestId env requestId := by
    rw [insertToDurableContextMap, if_neg absent, <- before]
    rfl
  have known : inserted.durableContextMap.lookup requestId = some context :=
    AList.lookup_insert _
  rw [drained, drainHeldLogsForRequestId_eq context known listed]
  rfl

theorem foldl_drain_eq_emit (entries : List (Sigma fun _ : String => List IntakeLog))
    (logs : HeldLogs) :
    entries.foldl (fun drained entry => entry.2.foldl (pushReady env) drained) logs =
      logs.emit env (entries.flatMap (fun entry => entry.2.map Release.untagged)) := by
  induction entries generalizing logs with
  | nil => exact (emit_nil env logs).symm
  | cons _ _ ih =>
    rw [List.foldl_cons, ih, foldl_pushReady_eq_emit, <- emit_append, List.flatMap_cons]

/-- The loop of the durable resolution, over entries with distinct keys. -/
theorem foldl_resolveEntry_eq (env : LogsEnv) (entries : List (Sigma fun _ : String => List IntakeLog))
    (logs : HeldLogs) (distinct : entries.NodupKeys) :
    Exists fun held =>
      entries.foldl (resolveEntry env) logs = emit env (entries.flatMap (fun entry =>
        match logs.durableContextMap.lookup entry.1 with
        | some context => entry.2.map (Release.tagged context)
        | none => [])) { logs with heldLogs := held } ∧
      forall id, held.lookup id =
        if id ∈ logs.durableContextMap then logs.heldLogs.lookup id
        else (entries.dlookup id).or (logs.heldLogs.lookup id) := by
  induction entries generalizing logs with
  | nil =>
    refine ⟨logs.heldLogs, (emit_nil env logs).symm, fun id => ?_⟩
    rw [List.dlookup_nil, Option.none_or, ite_self]
  | cons entry rest ih =>
    rcases entry with ⟨key, entryLogs⟩
    have apart := List.nodupKeys_cons.mp distinct
    rw [List.foldl_cons, List.flatMap_cons]
    cases known : logs.durableContextMap.lookup key with
    | some context =>
      have released : resolveEntry env logs ⟨key, entryLogs⟩ =
          logs.emit env (entryLogs.map (Release.tagged context)) := by
        simp only [resolveEntry, known]
        exact foldl_markReady_eq_emit env context entryLogs logs
      have present : key ∈ logs.durableContextMap := by
        rw [<- AList.lookup_isSome, known]
        rfl
      rcases ih (logs.emit env (entryLogs.map (Release.tagged context))) apart.2 with
        ⟨held, folded, lookups⟩
      refine ⟨held, ?_, fun id => ?_⟩
      · rw [released, folded, emit_append]
        rfl
      · rw [lookups id]
        change (if id ∈ logs.durableContextMap then logs.heldLogs.lookup id
          else (rest.dlookup id).or (logs.heldLogs.lookup id)) = _
        by_cases inMap : id ∈ logs.durableContextMap
        · rw [if_pos inMap, if_pos inMap]
        · have different : id ≠ key := fun same => inMap (same ▸ present)
          rw [if_neg inMap, if_neg inMap, List.dlookup_cons_ne rest ⟨key, entryLogs⟩ different]
    | none =>
      have unknown := AList.lookup_eq_none.mp known
      have kept : resolveEntry env logs ⟨key, entryLogs⟩ =
          { logs with heldLogs := logs.heldLogs.insert key entryLogs } := by
        simp only [resolveEntry, known]
      rcases ih { logs with heldLogs := logs.heldLogs.insert key entryLogs } apart.2 with
        ⟨held, folded, lookups⟩
      refine ⟨held, ?_, fun id => ?_⟩
      · rw [kept, folded, List.nil_append]
      · rw [lookups id]
        by_cases same : id = key
        · rw [same, if_neg unknown, if_neg unknown, AList.lookup_insert,
            List.dlookup_cons_eq, List.dlookup_eq_none.mpr apart.1]
          rfl
        · rw [AList.lookup_insert_ne same, List.dlookup_cons_ne rest ⟨key, entryLogs⟩ same]

theorem arranged_nodupKeys (logs : HeldLogs) : (logs.arranged env).NodupKeys :=
  (List.perm_nodupKeys (env.iterate.perm logs.heldLogs.entries)).mpr logs.heldLogs.nodupKeys

theorem dlookup_arranged (logs : HeldLogs) (id : String) :
    (logs.arranged env).dlookup id = logs.heldLogs.lookup id :=
  List.perm_dlookup id (arranged_nodupKeys logs) (env.iterate.perm logs.heldLogs.entries)

/-- Everything that is held becomes ready. -/
theorem drainHeldLogs_eq (logs : HeldLogs) :
    logs.drainHeldLogs env = emit env (logs.drainReleases env) { logs with
      heldLogs := ∅
      heldLogsOrder := [] } :=
  foldl_drain_eq_emit (logs.arranged env) _

/-- The logs of the requests with a context become ready, and the others stay. -/
theorem resolveDurable_eq (logs : HeldLogs) :
    Exists fun held => (forall id, held.lookup id =
        if id ∈ logs.durableContextMap then none else logs.heldLogs.lookup id) ∧
      logs.resolveHeldLogsOnDurableFunctionSet env true =
        emit env (logs.resolveReleases env) { logs with heldLogs := held, heldLogsOrder := [] } := by
  rcases foldl_resolveEntry_eq env (logs.arranged env) { logs with
      heldLogs := ∅, heldLogsOrder := [] } (arranged_nodupKeys logs) with ⟨held, folded, lookups⟩
  refine ⟨held, fun id => ?_, folded⟩
  rw [lookups id, dlookup_arranged, AList.lookup_empty, Option.or_none]

end HeldLogs
end Logs
end Bottlecap
