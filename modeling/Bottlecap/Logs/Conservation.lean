import Mathlib.Algebra.Order.Group.Multiset
import Bottlecap.Foundations.Totals
import Bottlecap.Logs.HeldLogRuns
import Bottlecap.Logs.LambdaProcessor

namespace Bottlecap
namespace Logs

open Foundations Extension

/-!
# No log is lost or duplicated

Logs move between the held and the ready logs, and on the way they get durable
execution attributes.  They are compared under any view that does not see these
attributes: the log without them, or its request id alone.

`Transfers` says of one operation which logs it has added to the held and the
ready logs together.  Operations compose, and each of them has one lemma in this
form; the law for a whole run follows by addition.
-/

variable {View : Type} (view : IntakeLog -> View)

/-- The views of the logs of a list, in any order. -/
def bag (logs : List IntakeLog) : Multiset View := (logs.map view : List View)

theorem bag_nil : bag view [] = 0 := rfl

theorem bag_append (first second : List IntakeLog) :
    bag view (first ++ second) = bag view first + bag view second := by
  rw [bag, List.map_append]
  rfl

namespace HeldLogs

/-- The views of the logs that are held. -/
def content (logs : HeldLogs) : Multiset View := total (bag view) logs.heldLogs

/-- From `before` to `after` the logs `added` have come in: some were pushed to
the ready logs, the others are held. -/
def Transfers (text : IntakeLog -> String) (before after : HeldLogs)
    (added : Multiset View) : Prop :=
  Exists fun pushed => after.readyLogs = before.readyLogs ++ pushed.map text ∧
      bag view pushed + after.content view = before.content view + added

variable {view} {text : IntakeLog -> String}

theorem Transfers.of_same {before after : HeldLogs} (ready : after.readyLogs = before.readyLogs)
    (held : after.heldLogs = before.heldLogs) : Transfers view text before after 0 := by
  refine ⟨[], ?_, ?_⟩
  · rw [ready, List.map_nil, List.append_nil]
  · rw [content, content, held, bag_nil, zero_add, add_zero]

theorem Transfers.trans {first second third : HeldLogs} {early late : Multiset View}
    (before : Transfers view text first second early) (after : Transfers view text second third late) :
    Transfers view text first third (early + late) := by
  rcases before with ⟨pushed, ready, moved⟩
  rcases after with ⟨pushedLater, readyLater, movedLater⟩
  refine ⟨pushed ++ pushedLater, ?_, ?_⟩
  · rw [readyLater, ready, List.map_append, List.append_assoc]
  · rw [bag_append, add_assoc, movedLater, <- add_assoc, moved, add_assoc]

theorem Transfers.congr {before after : HeldLogs} {added other : Multiset View}
    (transfers : Transfers view text before after added) (same : added = other) :
    Transfers view text before after other := same ▸ transfers

variable {env : LogsEnv} (serializes : forall log, env.serialize log = some (text log))
  (unseen : forall context log, view (withDurableContext env context log) = view log)

variable {logs : HeldLogs}

include serializes unseen

/-- Released logs are added to the ready ones.  Tagging a log changes only attributes that
the view does not see. -/
theorem emit_transfers (release : IntakeLog -> Release)
    (names : forall log, (release log).log = log) (held : List IntakeLog) (logs : HeldLogs) :
    Transfers view text logs (logs.emit env (held.map release)) (bag view held) := by
  have seen : forall log, view ((release log).sent env) = view log := by
    intro log
    rw [Release.sent]
    split
    · rw [names]
    · rw [unseen, names]
  refine ⟨held.map (fun log => (release log).sent env), ?_, ?_⟩
  · simp [emit, Release.text, serializes, Function.comp_def]
  · change bag view _ + logs.content view = _
    rw [add_comm, bag, List.map_map]
    simp only [Function.comp_def, seen]
    rfl

/-! ## Holding and evicting -/

theorem evictOldest_transfers (logs : HeldLogs) :
    Transfers view text logs (logs.evictOldest env) 0 := by
  cases order : logs.heldLogsOrder with
  | nil =>
    simp only [evictOldest, order]
    exact Transfers.of_same rfl rfl
  | cons oldest rest =>
    cases found : logs.heldLogs.lookup oldest with
    | none =>
      simp only [evictOldest, order, found]
      exact Transfers.of_same rfl rfl
    | some evicted =>
      simp only [evictOldest, order, found, foldl_pushReady_eq_emit]
      rcases emit_transfers serializes unseen Release.untagged (fun _ => rfl) evicted
        { logs with heldLogsOrder := rest, heldLogs := logs.heldLogs.erase oldest }
        with ⟨pushed, ready, moved⟩
      refine ⟨pushed, ready, ?_⟩
      rw [moved, add_zero, content, content, total_of_lookup (bag view) found, add_comm]

omit serializes unseen in
theorem appendHeld_transfers (requestId : String) (log : IntakeLog) (logs : HeldLogs) :
    Transfers view text logs (logs.appendHeld requestId log) (bag view [log]) := by
  refine ⟨[], ?_, ?_⟩
  · rw [List.map_nil, List.append_nil]
    rfl
  · rw [bag_nil, zero_add, content, content]
    change total (bag view) (logs.heldLogs.insert requestId _) = _
    rw [total_insert]
    cases found : logs.heldLogs.lookup requestId with
    | none =>
      rw [total_erase_of_notMem (bag view) (AList.lookup_eq_none.mp found), add_comm]
      rfl
    | some =>
      rw [total_of_lookup (bag view) found, Option.getD_some, bag_append]
      rw [add_assoc, add_assoc, add_comm (bag view [log])]

theorem holdLog_transfers {after : HeldLogs} {fuel : Nat} {requestId : String} {log : IntakeLog}
    (enabled : env.lambdaDurableFunctionLogBufferSize ≠ 0)
    (returns : logs.holdLog env fuel requestId log = some after) :
    Transfers view text logs after (bag view [log]) := by
  simp only [holdLog, enabled, if_false] at returns
  split at returns
  next held =>
    cases returns
    exact appendHeld_transfers requestId log logs
  next fresh =>
    rcases Option.map_eq_some_iff.mp returns with ⟨evicted, ends, stored⟩
    -- No iteration of the eviction loop loses a log.
    have kept : Transfers view text logs evicted 0 := by
      have loop : LoopEnds (evictionGuard env) (evictOldest env) logs evicted := ⟨fuel, ends⟩
      refine (loop.invariant (fun current => Transfers view text logs current 0) ?_
        (Transfers.of_same rfl rfl)).1
      intro current _ before
      exact (before.trans (evictOldest_transfers serializes unseen current)).congr (add_zero 0)
    rw [<- stored]
    have listed : Transfers view text evicted
        { evicted with heldLogsOrder := evicted.heldLogsOrder ++ [requestId] } 0 :=
      Transfers.of_same rfl rfl
    have appended := (kept.trans listed).trans (appendHeld_transfers requestId log _)
    exact appended.congr (by rw [add_zero, zero_add])

/-- Wherever a log is routed, it is added once. -/
theorem queueLogAfterRules_transfers {after : HeldLogs} {fuel : Nat} {log : IntakeLog}
    (returns : logs.queueLogAfterRules env fuel log = some after) :
    Transfers view text logs after (bag view [log]) := by
  have routed := queueLogAfterRules_routed returns
  generalize logs.queueReleases env log = released at routed
  cases routed with
  | ready => exact emit_transfers serializes unseen Release.untagged (fun _ => rfl) [log] logs
  | tagged => exact emit_transfers serializes unseen (Release.tagged _) (fun _ => rfl) [log] logs
  | holds waits returns => exact holdLog_transfers serializes unseen waits.enabled returns

/-! ## Draining and resolving -/

/-- The held logs of a request with a known context become ready. -/
theorem drainHeldLogsForRequestId_transfers {requestId : String}
    (known : requestId ∈ logs.durableContextMap) :
    Transfers view text logs (logs.drainHeldLogsForRequestId env requestId) 0 := by
  rcases Option.isSome_iff_exists.mp (AList.lookup_isSome.mpr known) with ⟨context, lookup⟩
  cases found : logs.heldLogs.lookup requestId with
  | none =>
    simp only [drainHeldLogsForRequestId, found]
    exact Transfers.of_same rfl rfl
  | some held =>
    simp only [drainHeldLogsForRequestId, found, lookup, foldl_markReady_eq_emit]
    rcases emit_transfers serializes unseen (Release.tagged context) (fun _ => rfl) held
      { logs with
        heldLogs := logs.heldLogs.erase requestId
        heldLogsOrder := logs.heldLogsOrder.filter (fun other => other != requestId) }
      with ⟨pushed, ready, moved⟩
    refine ⟨pushed, ready, ?_⟩
    rw [moved, add_zero, content, content, total_of_lookup (bag view) found, add_comm]

theorem insertToDurableContextMap_transfers (requestId : String)
    (context : DurableExecutionContext) (logs : HeldLogs) :
    Transfers view text logs (logs.insertToDurableContextMap env requestId context) 0 := by
  -- The drained state differs from `logs` only in its contexts, and `requestId` has one.
  have drained : forall before : HeldLogs, before.heldLogs = logs.heldLogs ->
      before.readyLogs = logs.readyLogs -> requestId ∈ before.durableContextMap ->
      Transfers view text logs (before.drainHeldLogsForRequestId env requestId) 0 := by
    intro before sameHeld sameReady known
    have same : Transfers view text logs before 0 := Transfers.of_same sameReady sameHeld
    have both := same.trans (drainHeldLogsForRequestId_transfers serializes unseen known)
    exact both.congr (add_zero 0)
  have inserted : forall contexts : AList (fun _ : String => DurableExecutionContext),
      requestId ∈ contexts.insert requestId context := by
    intro contexts
    exact (AList.mem_insert contexts).mpr (Or.inl rfl)
  rw [insertToDurableContextMap]
  split
  · exact Transfers.of_same rfl rfl
  · split
    · split
      · exact drained _ rfl rfl (inserted _)
      · exact drained _ rfl rfl (inserted _)
    · exact drained _ rfl rfl (inserted _)

theorem foldl_drain_transfers (entries : List (Sigma fun _ : String => List IntakeLog))
    (logs : HeldLogs) :
    Transfers view text logs
      (entries.foldl (fun drained entry => entry.2.foldl (pushReady env) drained) logs)
      (listTotal (bag view) entries) := by
  induction entries generalizing logs with
  | nil => exact Transfers.of_same rfl rfl
  | cons entry rest ih =>
    rw [List.foldl_cons, foldl_pushReady_eq_emit]
    have first := emit_transfers serializes unseen Release.untagged (fun _ => rfl) entry.2 logs
    exact (first.trans (ih _)).congr (listTotal_cons (bag view) entry rest).symm

theorem resolveEntry_transfers {entry : Sigma fun _ : String => List IntakeLog}
    (fresh : entry.1 ∉ logs.heldLogs) :
    Transfers view text logs (resolveEntry env logs entry) (bag view entry.2) := by
  cases known : logs.durableContextMap.lookup entry.1 with
  | some context =>
    simp only [resolveEntry, known, foldl_markReady_eq_emit]
    exact emit_transfers serializes unseen (Release.tagged context) (fun _ => rfl) entry.2 logs
  | none =>
    simp only [resolveEntry, known]
    refine ⟨[], ?_, ?_⟩
    · rw [List.map_nil, List.append_nil]
    · rw [bag_nil, zero_add, content, total_insert_of_notMem (bag view) fresh, add_comm]
      rfl

omit serializes unseen in
theorem mem_resolveEntry {entry : Sigma fun _ : String => List IntakeLog} {id : String}
    (member : id ∈ (resolveEntry env logs entry).heldLogs) : id = entry.1 ∨ id ∈ logs.heldLogs := by
  unfold resolveEntry at member
  split at member
  · rw [foldl_markReady_eq_emit] at member
    exact Or.inr member
  · exact (AList.mem_insert _).mp member

/-- The keys of the taken map are distinct, so no entry put back overwrites another. -/
theorem foldl_resolveEntry_transfers (entries : List (Sigma fun _ : String => List IntakeLog))
    (logs : HeldLogs) (distinct : (entries.map Sigma.fst).Nodup)
    (fresh : forall entry, entry ∈ entries -> entry.1 ∉ logs.heldLogs) :
    Transfers view text logs (entries.foldl (resolveEntry env) logs) (listTotal (bag view) entries) := by
  induction entries generalizing logs with
  | nil => exact Transfers.of_same rfl rfl
  | cons entry rest ih =>
    rw [List.map_cons, List.nodup_cons] at distinct
    have first := resolveEntry_transfers serializes unseen (fresh entry List.mem_cons_self)
    have later := ih (resolveEntry env logs entry) distinct.2 (by
      intro other member held
      rcases mem_resolveEntry held with same | old
      · exact distinct.1 (same ▸ List.mem_map_of_mem member)
      · exact fresh other (List.mem_cons_of_mem entry member) old)
    exact (first.trans later).congr (listTotal_cons (bag view) entry rest).symm

omit serializes unseen in
/-- A loop that puts every held log somewhere neither adds nor loses one. -/
theorem transfers_of_taken {after : HeldLogs}
    (loop : Transfers view text { logs with heldLogs := ∅, heldLogsOrder := [] } after
      (listTotal (bag view) (env.iterate.arrange logs.heldLogs.entries))) :
    Transfers view text logs after 0 := by
  rcases loop with ⟨pushed, ready, moved⟩
  refine ⟨pushed, ready, ?_⟩
  rw [moved, content, total_empty, zero_add, add_zero,
    listTotal_perm (bag view) (env.iterate.perm logs.heldLogs.entries)]
  rfl

theorem drainHeldLogs_transfers (logs : HeldLogs) :
    Transfers view text logs (logs.drainHeldLogs env) 0 :=
  transfers_of_taken (foldl_drain_transfers serializes unseen _ _)

theorem platformInitStart_transfers (isDurable : Bool) (logs : HeldLogs) :
    Transfers view text logs (logs.platformInitStart env isDurable) 0 := by
  have resolved : Transfers view text { logs with isDurableFunction := some isDurable }
      (logs.platformInitStart env isDurable) 0 := by
    cases isDurable with
    | false => exact transfers_of_taken (foldl_drain_transfers serializes unseen _ _)
    | true =>
      apply transfers_of_taken
      apply foldl_resolveEntry_transfers serializes unseen
      · exact ((env.iterate.perm logs.heldLogs.entries).map Sigma.fst).nodup_iff.mpr
          logs.heldLogs.keys_nodup
      · intro entry _
        exact AList.notMem_empty entry.1
  have flagged : Transfers view text logs { logs with isDurableFunction := some isDurable } 0 :=
    Transfers.of_same rfl rfl
  exact (flagged.trans resolved).congr (add_zero 0)

end HeldLogs
end Logs
end Bottlecap
