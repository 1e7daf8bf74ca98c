import Bottlecap.Logs.ContextRuns

namespace Bottlecap
namespace Logs

open Foundations

/-!
# The order of held logs

The logs of one request never overtake each other: whatever route each of them
takes, what was released and what is still held make up what was queued, in this
order.

Requests are evicted by age, as long as every held request is listed in
`held_logs_order`.  A durable resolution clears that order and puts back only the
map entries, so the requests that stay held are never evicted again, and requests
held later are evicted in their place.
-/

/-- A log of the request that carries no durable execution id of its own. -/
def IntakeLog.plainOf (requestId : String) (log : IntakeLog) : Bool :=
  log.message.lambda.requestId == some requestId && log.message.lambda.durableExecutionId.isNone

theorem IntakeLog.plainOf_iff {requestId : String} {log : IntakeLog} :
    log.plainOf requestId = true <-> log.message.lambda.requestId = some requestId ∧
      log.message.lambda.durableExecutionId = none := by
  rw [plainOf, Bool.and_eq_true_iff, beq_iff_eq, Option.isNone_iff_eq_none]

namespace HeldLogs

variable {env : LogsEnv} {logs after : HeldLogs}

/-! ## One request, one call -/

/-- A log that is held for a request is a plain log of that request only. -/
theorem plainOf_of_waits {log : IntakeLog} {requestId : String}
    (waits : logs.Waits env log requestId) (id : String) :
    log.plainOf id = decide (id = requestId) := by
  apply Bool.eq_iff_iff.mpr
  rw [IntakeLog.plainOf_iff, decide_eq_true_iff, waits.request]
  constructor
  · rintro ⟨same, _⟩
    exact (Option.some.inj same).symm
  · intro same
    exact ⟨congrArg some same.symm, waits.plain⟩

theorem filter_heldFor (under : logs.HeldUnderRequest) (requestId id : String) :
    (logs.heldFor requestId).filter (IntakeLog.plainOf id) =
      if id = requestId then logs.heldFor requestId else [] := by
  by_cases same : id = requestId
  · rw [if_pos same, List.filter_eq_self]
    intro log member
    exact IntakeLog.plainOf_iff.mpr (same ▸ under requestId log member)
  · rw [if_neg same, List.filter_eq_nil_iff]
    intro log member plain
    have request := (under requestId log member).1
    rw [(IntakeLog.plainOf_iff.mp plain).1] at request
    exact same (Option.some.inj request)

/-- When all that was held for a request is released, the others keep theirs. -/
theorem filter_heldFor_append (under : logs.HeldUnderRequest) (requestId id : String)
    {rest : HeldLogs} (erased : rest.heldLogs = logs.heldLogs.erase requestId) :
    (logs.heldFor requestId).filter (IntakeLog.plainOf id) ++ rest.heldFor id =
      logs.heldFor id := by
  rw [filter_heldFor under, heldFor_erase logs requestId erased]
  by_cases same : id = requestId
  · rw [if_pos same, if_pos same, same, List.append_nil]
  · rw [if_neg same, if_neg same, List.nil_append]

/-- A loop over a map that takes the logs of some requests takes those of one of
them in the order in which they are held. -/
theorem filter_flatMap_entries (takes : String -> Bool) (id : String)
    (entries : List (Sigma fun _ : String => List IntakeLog)) (distinct : entries.NodupKeys)
    (under : forall entry, entry ∈ entries -> forall log, log ∈ entry.2 ->
      log.message.lambda.requestId = some entry.1 ∧
        log.message.lambda.durableExecutionId = none) :
    (entries.flatMap (fun entry => if takes entry.1 then entry.2 else [])).filter
        (IntakeLog.plainOf id) =
      if takes id then (entries.dlookup id).getD [] else [] := by
  induction entries with
  | nil => exact (ite_self _).symm
  | cons entry rest ih =>
    rcases entry with ⟨key, entryLogs⟩
    have apart := List.nodupKeys_cons.mp distinct
    have tail := ih apart.2 (fun other member => under other (List.mem_cons_of_mem _ member))
    rw [List.flatMap_cons, List.filter_append, tail]
    by_cases same : id = key
    · have absent : rest.dlookup id = none := List.dlookup_eq_none.mpr (same ▸ apart.1)
      have all : entryLogs.filter (IntakeLog.plainOf id) = entryLogs := by
        rw [List.filter_eq_self]
        intro log member
        exact IntakeLog.plainOf_iff.mpr (same ▸ under ⟨key, entryLogs⟩ List.mem_cons_self log member)
      rw [absent, same, List.dlookup_cons_eq]
      cases taken : takes key with
      | false => rfl
      | true =>
        rw [<- same]
        simp only [if_true, all, Option.getD_none, Option.getD_some, List.append_nil]
    · have nothing : (if takes key then entryLogs else []).filter (IntakeLog.plainOf id) = [] := by
        rw [List.filter_eq_nil_iff]
        intro log member plain
        split at member
        · have request := (under ⟨key, entryLogs⟩ List.mem_cons_self log member).1
          rw [(IntakeLog.plainOf_iff.mp plain).1] at request
          exact same (Option.some.inj request)
        · cases member
      rw [nothing, List.dlookup_cons_ne rest ⟨key, entryLogs⟩ same]
      rfl

theorem filter_arranged (under : logs.HeldUnderRequest) (takes : String -> Bool) (id : String) :
    ((logs.arranged env).flatMap (fun entry => if takes entry.1 then entry.2 else [])).filter
        (IntakeLog.plainOf id) =
      if takes id then logs.heldFor id else [] := by
  rw [filter_flatMap_entries takes id _ (arranged_nodupKeys logs), dlookup_arranged]
  · rfl
  · intro entry member log inEntry
    exact under entry.1 log (heldFor_of_mem_arranged member ▸ inEntry)

theorem drainReleases_log (logs : HeldLogs) : (logs.drainReleases env).map Release.log =
    (logs.arranged env).flatMap (fun entry => if true then entry.2 else []) := by
  rw [drainReleases, List.map_flatMap]
  apply List.flatMap_congr
  intro entry _
  rw [List.map_map]
  exact List.map_id entry.2

theorem resolveReleases_log (logs : HeldLogs) : (logs.resolveReleases env).map Release.log =
    (logs.arranged env).flatMap (fun entry =>
      if decide (entry.1 ∈ logs.durableContextMap) then entry.2 else []) := by
  rw [resolveReleases, List.map_flatMap]
  apply List.flatMap_congr
  intro entry _
  cases known : logs.durableContextMap.lookup entry.1 with
  | none =>
    rw [decide_eq_false (AList.lookup_eq_none.mp known)]
    rfl
  | some =>
    have present : entry.1 ∈ logs.durableContextMap := by
      rw [<- AList.lookup_isSome, known]
      rfl
    rw [decide_eq_true present, List.map_map]
    exact List.map_id entry.2

/-- A plain log that becomes ready at once finds no earlier log of its request
held. -/
theorem heldFor_of_passes (settled : logs.Settled) (within : logs.WithinBuffer env)
    {log : IntakeLog} {id : String} (passes : logs.Passes env log) (plain : log.plainOf id = true) :
    logs.heldFor id = [] := by
  have request := IntakeLog.plainOf_iff.mp plain
  rcases passes with own | disabled | notDurable | anonymous
  · rw [request.2] at own
    cases own
  · apply heldFor_eq_nil
    intro held
    have positive := List.length_pos_of_mem (AList.mem_keys.mp held)
    have bounded := within.bounded
    rw [disabled] at bounded
    exact absurd positive (Nat.not_lt_of_le bounded)
  · rw [heldFor, settled.notDurable notDurable]
    rfl
  · rw [anonymous] at request
    cases request.1

/-- For one request, a call releases the first of what was held, and what it
queues comes last. -/
theorem Effect.moves {call : BufferCall} {released : List Release}
    (effect : logs.Effect env call released after) (settled : logs.Settled)
    (under : logs.HeldUnderRequest) (within : logs.WithinBuffer env) (id : String) :
    (released.map Release.log).filter (IntakeLog.plainOf id) ++ after.heldFor id =
      logs.heldFor id ++ call.queues.filter (IntakeLog.plainOf id) := by
  -- A log that is released at once, when nothing of its request is held.
  have direct : forall log : IntakeLog, (log.plainOf id = true -> logs.heldFor id = []) ->
      [log].filter (IntakeLog.plainOf id) ++ logs.heldFor id =
        logs.heldFor id ++ [log].filter (IntakeLog.plainOf id) := by
    intro log empty
    cases plain : log.plainOf id with
    | false => rw [List.filter_cons, plain]; exact (List.append_nil _).symm
    | true => rw [empty plain, List.append_nil, List.nil_append]
  -- A log that is stored behind what `before` holds for its request.
  have stored : forall (before : HeldLogs) {log : IntakeLog} {requestId : String},
      logs.Waits env log requestId ->
      (before.appendHeld requestId log).heldFor id =
        before.heldFor id ++ [log].filter (IntakeLog.plainOf id) := by
    intro before log requestId waits
    rw [heldFor_appendHeld, List.filter_cons, plainOf_of_waits waits id]
    by_cases same : id = requestId
    · rw [if_pos same, decide_eq_true same, same]
      rfl
    · rw [if_neg same, decide_eq_false same]
      exact (List.append_nil _).symm
  have drained : forall rest : HeldLogs, rest.heldLogs = ∅ ->
      ((logs.drainReleases env).map Release.log).filter (IntakeLog.plainOf id) ++ rest.heldFor id =
        logs.heldFor id ++ [] := by
    intro rest empty
    have gone : rest.heldFor id = [] :=
      heldFor_eq_nil (by rw [empty]; exact AList.notMem_empty id)
    rw [drainReleases_log, filter_arranged under (fun _ => true), if_pos rfl, gone]
  cases effect with
  | @ready log passes => exact direct log (heldFor_of_passes settled within passes)
  | @tagged log _ _ _ durable request known =>
    apply direct log
    intro isPlain
    apply heldFor_eq_nil
    intro held
    rw [(IntakeLog.plainOf_iff.mp isPlain).1] at request
    obtain rfl := Option.some.inj request
    have present : id ∈ logs.durableContextMap := by
      rw [<- AList.lookup_isSome, known]
      rfl
    exact settled.durable durable id held present
  | append waits => exact stored logs waits
  | store waits => exact stored { logs with heldLogsOrder := _ } waits
  | @evict log _ oldest _ waits =>
    rw [List.map_map]
    change ((logs.heldFor oldest).map (fun log => log)).filter _ ++ _ = _
    rw [List.map_id', stored _ waits, <- List.append_assoc, filter_heldFor_append under oldest id rfl]
    rfl
  | known | take => exact (List.append_nil _).symm
  | @insert requestId =>
    rw [List.map_map]
    change ((logs.heldFor requestId).map (fun log => log)).filter _ ++ _ = _ ++ []
    rw [List.map_id', List.append_nil]
    exact filter_heldFor_append under requestId id rfl
  | @resolve held kept =>
    rw [resolveReleases_log, filter_arranged under (fun id => decide (id ∈ logs.durableContextMap))]
    change _ ++ (held.lookup id).getD [] = _ ++ []
    rw [kept id]
    by_cases known : id ∈ logs.durableContextMap
    · rw [if_pos known, decide_eq_true known, if_pos rfl]
      rfl
    · rw [if_neg known, decide_eq_false known, List.append_nil]
      rfl
  | release | drain => exact drained _ rfl

end HeldLogs

namespace BufferLedger

variable {env : LogsEnv} {ledger next : BufferLedger}

/-- What was released of a request, followed by what is held of it, is what was
queued. -/
def InOrder (ledger : BufferLedger) (requestId : String) : Prop :=
  (ledger.released.map Release.log).filter (IntakeLog.plainOf requestId) ++
      ledger.buffers.heldFor requestId =
    ledger.queued.filter (IntakeLog.plainOf requestId)

theorem Reached.inOrder (reached : ledger.Reached env) (requestId : String) :
    ledger.InOrder requestId := by
  refine Reached.invariant (fun ledger => ledger.InOrder requestId) rfl ?_ reached
  intro ledger call after earlier inOrder effect
  have moves := effect.moves earlier.settled earlier.heldUnderRequest earlier.withinBuffer requestId
  change ((ledger.released ++ call.releases env ledger.buffers).map Release.log).filter _ ++ _ =
    (ledger.queued ++ call.queues).filter _
  rw [List.map_append, List.filter_append, List.filter_append, List.append_assoc]
  calc (ledger.released.map Release.log).filter (IntakeLog.plainOf requestId) ++
        (((call.releases env ledger.buffers).map Release.log).filter
          (IntakeLog.plainOf requestId) ++ after.heldFor requestId)
      = (ledger.released.map Release.log).filter (IntakeLog.plainOf requestId) ++
          (ledger.buffers.heldFor requestId ++
            call.queues.filter (IntakeLog.plainOf requestId)) := by rw [moves]
    _ = ledger.queued.filter (IntakeLog.plainOf requestId) ++
          call.queues.filter (IntakeLog.plainOf requestId) := by
        rw [<- List.append_assoc, inOrder]

/-- With every log serialized, the texts that were taken or are ready are those of
the released logs, and the plain logs of each request were released in the order
in which they were queued. -/
theorem plain_logs_released_in_order {text : IntakeLog -> String}
    (serializes : forall log, env.serialize log = some (text log))
    (reached : ledger.Reached env) :
    ledger.taken ++ ledger.buffers.readyLogs =
        ledger.released.map (fun release => text (release.sent env)) ∧
      forall requestId, ledger.InOrder requestId := by
  refine ⟨?_, reached.inOrder⟩
  rw [reached.texts]
  have texts : Release.text env = fun release => some (text (release.sent env)) := by
    funext release
    exact serializes (release.sent env)
  rw [texts, List.filterMap_eq_map']

/-- The ledger when the log of `r1` was drained and another one was held. -/
def drainedThenHeld : BufferLedger :=
  let env := HeldLogs.processorWithRoom 2
  let drained : HeldLogs := { HeldLogs.new with readyLogs := ["hello"] }
  let second := HeldLogs.functionLog "r1" "world"
  ((firstHeld 2).record env .drainHeldLogs drained).record env
    (.queueLogAfterRules second)
    { drained with
      heldLogs := (∅ : HeldMap).insert "r1" [second]
      heldLogsOrder := ["r1"] }

/-- Of the two logs of `r1` the first one is ready. -/
theorem plain_logs_released_in_order_drained :
    drainedThenHeld.taken ++ drainedThenHeld.buffers.readyLogs = ["hello"] ∧
      forall requestId, drainedThenHeld.InOrder requestId := by
  let env := HeldLogs.processorWithRoom 2
  have drained : ((firstHeld 2).record env .drainHeldLogs
      { HeldLogs.new with readyLogs := ["hello"] }).Reached env :=
    @Reachable.step _ _ (firstHeld 2) _ .drainHeldLogs 0 firstHeld_reached trivial rfl
  have reached : drainedThenHeld.Reached env :=
    @Reachable.step _ _ _ drainedThenHeld
      (.queueLogAfterRules (HeldLogs.functionLog "r1" "world")) 1 drained trivial rfl
  have released := plain_logs_released_in_order (fun _ => rfl) reached
  exact ⟨released.1.trans rfl, released.2⟩

/-! ## Requests by age -/

/-- The order lists requests by age, and the unlisted ones are older than all of
them. -/
structure Aged (ledger : BufferLedger) : Prop where
  past : forall id, id ∈ ledger.buffers.heldLogs -> ledger.heldSince id < ledger.calls
  ordered : ledger.buffers.heldLogsOrder.Pairwise
    (fun first second => ledger.heldSince first < ledger.heldSince second)
  unlistedFirst : forall id, id ∈ ledger.buffers.unlisted ->
    forall listed, listed ∈ ledger.buffers.heldLogsOrder ->
      ledger.heldSince id < ledger.heldSince listed

section Ages

variable {call : BufferCall} {after : HeldLogs}

theorem record_heldSince {id : String} (held : id ∈ ledger.buffers.heldLogs) :
    (ledger.record env call after).heldSince id = ledger.heldSince id := if_pos held

theorem record_heldSince_fresh {id : String} (fresh : id ∉ ledger.buffers.heldLogs) :
    (ledger.record env call after).heldSince id = ledger.calls := if_neg fresh

/-- No request is held since a later call than this one. -/
theorem Aged.past_record (aged : ledger.Aged) (id : String) :
    (ledger.record env call after).heldSince id < ledger.calls + 1 := by
  by_cases held : id ∈ ledger.buffers.heldLogs
  · rw [record_heldSince held]
    exact Nat.lt_succ_of_lt (aged.past id held)
  · rw [record_heldSince_fresh held]
    exact Nat.lt_succ_self _

/-- A call that keeps some of the listed requests in their order and unlists
none. -/
theorem Aged.keep (aged : ledger.Aged) (agrees : ledger.buffers.OrderAgrees)
    (kept : after.heldLogsOrder.Sublist ledger.buffers.heldLogsOrder)
    (unlisted : after.unlisted ⊆ ledger.buffers.unlisted) :
    (ledger.record env call after).Aged := by
  have stamp : forall id, id ∈ after.heldLogsOrder ->
      (ledger.record env call after).heldSince id = ledger.heldSince id :=
    fun id member => record_heldSince (agrees.held id (kept.subset member))
  refine ⟨fun id _ => aged.past_record id, ?_, ?_⟩
  · refine (aged.ordered.sublist kept).imp_of_mem ?_
    intro first second memberFirst memberSecond older
    rw [stamp first memberFirst, stamp second memberSecond]
    exact older
  · intro id member listed memberListed
    have old := unlisted member
    rw [record_heldSince (HeldLogs.mem_unlisted.mp old).1, stamp listed memberListed]
    exact aged.unlistedFirst id old listed (kept.subset memberListed)

/-- A call that lists a new request behind the ones it keeps. -/
theorem Aged.push (aged : ledger.Aged) (agrees : ledger.buffers.OrderAgrees) {requestId : String}
    {rest : List String} (fresh : requestId ∉ ledger.buffers.heldLogs)
    (order : after.heldLogsOrder = rest ++ [requestId])
    (kept : rest.Sublist ledger.buffers.heldLogsOrder)
    (unlisted : after.unlisted ⊆ ledger.buffers.unlisted) :
    (ledger.record env call after).Aged := by
  have stamp : forall id, id ∈ rest ->
      (ledger.record env call after).heldSince id = ledger.heldSince id :=
    fun id member => record_heldSince (agrees.held id (kept.subset member))
  have newest : forall id, id ∈ ledger.buffers.heldLogs ->
      (ledger.record env call after).heldSince id <
        (ledger.record env call after).heldSince requestId := by
    intro id held
    rw [record_heldSince held, record_heldSince_fresh fresh]
    exact aged.past id held
  refine ⟨fun id _ => aged.past_record id, ?_, ?_⟩
  · change after.heldLogsOrder.Pairwise _
    rw [order, List.pairwise_append]
    refine ⟨(aged.ordered.sublist kept).imp_of_mem ?_, List.pairwise_singleton _ _, ?_⟩
    · intro first second memberFirst memberSecond older
      rw [stamp first memberFirst, stamp second memberSecond]
      exact older
    · intro first member second isNew
      rw [List.mem_singleton.mp isNew]
      exact newest first (agrees.held first (kept.subset member))
  · intro id member listed memberListed
    have old := unlisted member
    have held := (HeldLogs.mem_unlisted.mp old).1
    have inOrder : listed ∈ after.heldLogsOrder := memberListed
    rw [order, List.mem_append, List.mem_singleton] at inOrder
    rcases inOrder with earlier | isNew
    · rw [record_heldSince held, stamp listed earlier]
      exact aged.unlistedFirst id old listed (kept.subset earlier)
    · rw [isNew]
      exact newest id held

/-- A call that clears the order. -/
theorem Aged.clear (aged : ledger.Aged) (empty : after.heldLogsOrder = []) :
    (ledger.record env call after).Aged := by
  refine ⟨fun id _ => aged.past_record id, ?_, ?_⟩
  · change after.heldLogsOrder.Pairwise _
    rw [empty]
    exact List.Pairwise.nil
  · intro id _ listed member
    have inOrder : listed ∈ after.heldLogsOrder := member
    rw [empty] at inOrder
    cases inOrder

end Ages

theorem Reached.aged (reached : ledger.Reached env) : ledger.Aged := by
  induction reached with
  | new =>
    refine ⟨fun id member => absurd member (AList.notMem_empty id), List.Pairwise.nil, ?_⟩
    intro id _ listed member
    cases member
  | @step ledger next call _ earlier _ returns aged =>
    have within := Reached.withinBuffer earlier
    have result := HeldLogs.apply_result env call.op within (step_cases returns).1
    rcases Reached.effect earlier returns with ⟨effect, same⟩
    rw [same]
    generalize next.buffers = after at effect result
    generalize call.releases env ledger.buffers = released at effect
    have agrees := within.toOrderAgrees
    cases effect with
    | ready | append | known | take => exact aged.keep agrees (List.Sublist.refl _) (result.2.1 rfl)
    | tagged =>
      exact aged.keep agrees (List.Sublist.refl _) (result.2.1 rfl)
    | store _ fresh =>
      exact aged.push agrees fresh rfl (List.Sublist.refl _) (result.2.1 rfl)
    | evict _ fresh _ order =>
      refine aged.push agrees fresh rfl ?_ (result.2.1 rfl)
      rw [order]
      exact List.sublist_cons_self _ _
    | insert => exact aged.keep agrees List.filter_sublist (result.2.1 rfl)
    | resolve | release | drain => exact aged.clear rfl

/-! ## Evictions -/

/-- No request has been held for longer. -/
def LongestHeld (ledger : BufferLedger) (id : String) : Prop :=
  id ∈ ledger.buffers.heldLogs ∧
    forall other, other ∈ ledger.buffers.heldLogs -> ledger.heldSince id <= ledger.heldSince other

/-- The request that leaves, with all its logs, when `after` has stored a new one. -/
def Evicted (env : LogsEnv) (before after : HeldLogs) (requestId oldest : String) : Prop :=
  after.readyLogs = before.readyLogs ++ (before.heldFor oldest).filterMap env.serialize ∧
    forall id, id ∈ after.heldLogs <-> id = requestId ∨ id ≠ oldest ∧ id ∈ before.heldLogs

/-- Whenever `hold_log` has to make room for a new request, the logs it releases
are those of the request that has been held the longest. -/
def EvictsLongestHeld (env : LogsEnv) (ledger : BufferLedger) : Prop :=
  forall (fuel : Nat) (requestId : String) (log : IntakeLog) (after : HeldLogs),
    env.lambdaDurableFunctionLogBufferSize ≠ 0 -> requestId ∉ ledger.buffers.heldLogs ->
    ledger.buffers.evictionGuard env = true ->
    ledger.buffers.holdLog env fuel requestId log = some after ->
    Exists fun oldest =>
      ledger.LongestHeld oldest ∧ Evicted env ledger.buffers after requestId oldest

/-- The request that leaves is the first listed one. -/
theorem evicted_first {logs after : HeldLogs} {fuel : Nat} {requestId : String} {log : IntakeLog}
    (within : logs.WithinBuffer env) (enabled : env.lambdaDurableFunctionLogBufferSize ≠ 0)
    (fresh : requestId ∉ logs.heldLogs) (full : logs.evictionGuard env = true)
    (returns : logs.holdLog env fuel requestId log = some after) :
    Exists fun oldest => Exists fun rest =>
      logs.heldLogsOrder = oldest :: rest ∧ Evicted env logs after requestId oldest := by
  rcases HeldLogs.holdLog_evicts within enabled fresh full returns with
    ⟨oldest, rest, order, _, rfl⟩
  refine ⟨oldest, rest, order, ?_, fun id => ?_⟩
  · change logs.readyLogs ++ ((logs.heldFor oldest).map Release.untagged).filterMap _ = _
    rw [List.filterMap_map]
    rfl
  · rw [HeldLogs.mem_appendHeld]
    exact or_congr_right AList.mem_erase

/-- Two requests that leave by the same call are the same. -/
theorem Evicted.unique {before after : HeldLogs} {requestId first second : String}
    (evictsFirst : Evicted env before after requestId first)
    (evictsSecond : Evicted env before after requestId second)
    (fresh : requestId ∉ before.heldLogs) (held : first ∈ before.heldLogs) : first = second := by
  by_contra different
  have stays := (evictsSecond.2 first).mpr (Or.inr ⟨different, held⟩)
  rcases (evictsFirst.2 first).mp stays with same | ⟨other, _⟩
  · exact fresh (same ▸ held)
  · exact other rfl

/-- With every held request listed, the first listed one is the oldest. -/
theorem Reached.longestHeld_of_listed (reached : ledger.Reached env)
    (listed : ledger.buffers.unlisted = ∅) {oldest : String} {rest : List String}
    (order : ledger.buffers.heldLogsOrder = oldest :: rest) : ledger.LongestHeld oldest := by
  refine ⟨reached.withinBuffer.held oldest (by rw [order]; exact List.mem_cons_self), ?_⟩
  intro other held
  have inOrder : other ∈ ledger.buffers.heldLogsOrder := by
    by_contra absent
    have member := HeldLogs.mem_unlisted.mpr ⟨held, absent⟩
    rw [listed] at member
    exact absurd member (Finset.notMem_empty other)
  have ordered := reached.aged.ordered
  rw [order] at ordered inOrder
  rcases List.mem_cons.mp inOrder with same | later
  · rw [same]
  · exact Nat.le_of_lt (List.rel_of_pairwise_cons ordered later)

/-- Some request is listed, so the unlisted ones leave room in the buffer. -/
theorem unlisted_lt_of_listed {logs : HeldLogs} (within : logs.WithinBuffer env) {oldest : String}
    (listed : oldest ∈ logs.heldLogsOrder) :
    logs.unlisted.card < env.lambdaDurableFunctionLogBufferSize := by
  have fewer : logs.unlisted.card < logs.heldLogs.keys.length := by
    rw [HeldLogs.keys_length_eq_card]
    apply Finset.card_lt_card
    refine ⟨Finset.filter_subset _ _, fun all => ?_⟩
    have held := List.mem_toFinset.mpr (AList.mem_keys.mp (within.held oldest listed))
    exact (HeldLogs.mem_unlisted.mp (all held)).2 listed
  exact Nat.lt_of_lt_of_le fewer within.bounded

theorem Reached.evictsLongestHeld_iff (reached : ledger.Reached env) :
    ledger.EvictsLongestHeld env <->
      (ledger.buffers.evictionGuard env = true -> ledger.buffers.heldLogsOrder ≠ [] ->
        ledger.buffers.unlisted = ∅) := by
  have within := reached.withinBuffer
  constructor
  · intro evicts full someListed
    rcases List.exists_cons_of_ne_nil someListed with ⟨oldest, rest, order⟩
    have listed : oldest ∈ ledger.buffers.heldLogsOrder := by rw [order]; exact List.mem_cons_self
    -- A log of a new request evicts the first listed request.
    rcases Infinite.exists_notMem_finset ledger.buffers.heldLogs.keys.toFinset with ⟨fresh, absent⟩
    have new : fresh ∉ ledger.buffers.heldLogs :=
      fun member => absent (List.mem_toFinset.mpr (AList.mem_keys.mp member))
    have room := unlisted_lt_of_listed within listed
    have enabled : env.lambdaDurableFunctionLogBufferSize ≠ 0 := Nat.ne_zero_of_lt room
    let log : IntakeLog := ⟨⟨"", ⟨"", none, none, none, none, none⟩, 0, ""⟩, "", "", "", ""⟩
    rcases HeldLogs.holdLog_returns env within.toOrderAgrees room fresh log with ⟨after, returns⟩
    rcases evicted_first within enabled new full returns with ⟨first, tail, sameOrder, evicted⟩
    obtain rfl : oldest = first := by
      rw [order] at sameOrder
      exact (List.cons.inj sameOrder).1
    rcases evicts _ fresh log after enabled new full returns with ⟨longest, held, left⟩
    obtain rfl := Evicted.unique evicted left new (within.held oldest listed)
    apply Finset.eq_empty_of_forall_notMem
    intro id unlisted
    have older := reached.aged.unlistedFirst id unlisted oldest listed
    have atMost := held.2 id (HeldLogs.mem_unlisted.mp unlisted).1
    exact absurd older (Nat.not_lt_of_le atMost)
  · intro listed fuel requestId log after enabled fresh full returns
    rcases evicted_first within enabled fresh full returns with ⟨oldest, rest, order, evicted⟩
    have nonempty : ledger.buffers.heldLogsOrder ≠ [] := by rw [order]; exact List.cons_ne_nil _ _
    exact ⟨oldest, reached.longestHeld_of_listed (listed full nonempty) order, evicted⟩

/-- A durable resolution finds a context for every held request. -/
def ResolvesKnown (ledger : BufferLedger) (call : BufferCall) : Prop :=
  call.op.resolvesDurable = true -> ledger.buffers.withoutContext = ∅

theorem Reachable.unlisted_empty (reachable : Reachable env ResolvesKnown ledger) :
    ledger.buffers.unlisted = ∅ := by
  induction reachable with
  | new => rfl
  | @step _ _ call _ earlier known returns empty =>
    have within := Reached.withinBuffer earlier.reached
    have result := HeldLogs.apply_result env call.op within (step_cases returns).1
    cases resolves : call.op.resolvesDurable with
    | false => exact Finset.subset_empty.mp (empty ▸ result.2.1 resolves)
    | true => exact Finset.subset_empty.mp (known resolves ▸ result.2.2 resolves)

/-- The ledger when after `r1` also a log of `r2` was held. -/
def secondHeld : BufferLedger :=
  (heldThenDurable 2).record (HeldLogs.processorWithRoom 2)
    (.queueLogAfterRules (HeldLogs.functionLog "r2" "world"))
    { HeldLogs.heldThenDurable with
      heldLogs := HeldLogs.heldThenDurable.heldLogs.insert "r2" [HeldLogs.functionLog "r2" "world"]
      heldLogsOrder := ["r2"] }

theorem secondHeld_reached : secondHeld.Reached (HeldLogs.processorWithRoom 2) :=
  @Reachable.step _ _ (heldThenDurable 2) secondHeld
    (.queueLogAfterRules (HeldLogs.functionLog "r2" "world")) 1 heldThenDurable_reached
    trivial rfl

end BufferLedger
end Logs
end Bottlecap
