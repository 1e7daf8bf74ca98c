import Mathlib.Data.List.DropRight
import Bottlecap.Logs.BufferLedger

namespace Bottlecap
namespace Logs

open Foundations

/-!
# Durable contexts in a run

Contexts and logs arrive in either order.  Once the function is known to be
durable no log waits for a context that is known, once it is known not to be, none
waits at all; before, both maps may hold anything.

A log is tagged on three routes, each time with what the map has for its own
request.  The map in turn has what the first call for that request since its last
eviction passed in, which the ledger tells from the calls alone.
-/

namespace HeldLogs

/-- No log waits for a context that is known, and none waits for nothing. -/
structure Settled (logs : HeldLogs) : Prop where
  durable : logs.isDurableFunction = some true ->
    forall id, id ∈ logs.heldLogs -> id ∉ logs.durableContextMap
  notDurable : logs.isDurableFunction = some false -> logs.heldLogs = ∅

/-- Held logs carry the request id they are held for and no durable execution id. -/
def HeldUnderRequest (logs : HeldLogs) : Prop :=
  forall (id : String) (log : IntakeLog), log ∈ logs.heldFor id ->
    log.message.lambda.requestId = some id ∧ log.message.lambda.durableExecutionId = none

/-- The order of the durable contexts lists the keys of the map once each. -/
structure ContextsListed (logs : HeldLogs) : Prop where
  nodup : logs.durableContextOrder.Nodup
  keys : forall id, id ∈ logs.durableContextOrder <-> id ∈ logs.durableContextMap
  bounded : logs.durableContextOrder.length <= durableContextMapCapacity

variable {env : LogsEnv} {logs : HeldLogs}

variable {after : HeldLogs} {call : BufferCall} {released : List Release}

theorem heldFor_eq_nil {id : String} (absent : id ∉ logs.heldLogs) : logs.heldFor id = [] := by
  rw [heldFor, AList.lookup_eq_none.mpr absent]
  rfl

theorem heldFor_appendHeld (requestId id : String) (log : IntakeLog) :
    (logs.appendHeld requestId log).heldFor id =
      if id = requestId then logs.heldFor requestId ++ [log] else logs.heldFor id := by
  by_cases same : id = requestId
  · rw [if_pos same, same, heldFor, appendHeld, AList.lookup_insert]
    rfl
  · rw [if_neg same, heldFor, appendHeld, AList.lookup_insert_ne same]
    rfl

/-- The logs held for a request when those of another one have left. -/
theorem heldFor_erase (logs : HeldLogs) (requestId : String)
    (erased : after.heldLogs = logs.heldLogs.erase requestId) (id : String) :
    after.heldFor id = if id = requestId then [] else logs.heldFor id := by
  by_cases same : id = requestId
  · rw [if_pos same, same, heldFor, erased, AList.lookup_erase]
    rfl
  · rw [if_neg same, heldFor, erased, AList.lookup_erase_ne same]
    rfl

theorem heldFor_of_mem_arranged {entry : Sigma fun _ : String => List IntakeLog}
    (member : entry ∈ logs.arranged env) : logs.heldFor entry.1 = entry.2 := by
  have found := (List.mem_dlookup_iff (arranged_nodupKeys logs)).mpr member
  rw [dlookup_arranged] at found
  rw [heldFor, Option.mem_def.mp found]
  rfl

/-! ## Trimming -/

/-- Trimming removes at most the oldest context and changes no other one. -/
theorem trimmed_cases (logs : HeldLogs) :
    logs.trimmed = logs ∧ (logs.durableContextOrder = [] ∨
        logs.durableContextOrder.length < durableContextMapCapacity) ∨
      Exists fun oldest => Exists fun rest =>
        logs.durableContextOrder = oldest :: rest ∧ logs.trimmed = { logs with
          durableContextOrder := rest
          durableContextMap := logs.durableContextMap.erase oldest } := by
  rw [trimmed]
  by_cases full : durableContextMapCapacity <= logs.durableContextOrder.length
  · rw [if_pos full]
    cases order : logs.durableContextOrder with
    | nil => exact Or.inl ⟨rfl, Or.inl rfl⟩
    | cons oldest rest => exact Or.inr ⟨oldest, rest, rfl, rfl⟩
  · rw [if_neg full]
    exact Or.inl ⟨rfl, Or.inr (Nat.lt_of_not_le full)⟩

theorem lookup_trimmed {id : String} (kept : id ∈ logs.trimmed.durableContextMap) :
    id ∈ logs.durableContextMap ∧
      logs.trimmed.durableContextMap.lookup id = logs.durableContextMap.lookup id := by
  rcases trimmed_cases logs with ⟨same, _⟩ | ⟨oldest, rest, _, same⟩
  · rw [same] at kept ⊢
    exact ⟨kept, rfl⟩
  · rw [same] at kept ⊢
    have other := AList.mem_erase.mp kept
    exact ⟨other.2, AList.lookup_erase_ne other.1⟩

/-! ## No log waits for a known context -/

/-- Holding a log of a request without a context keeps the exclusion. -/
theorem Settled.hold {requestId : String} {log : IntakeLog} (waits : logs.Waits env log requestId)
    (flag : after.isDurableFunction = logs.isDurableFunction)
    (contexts : after.durableContextMap = logs.durableContextMap)
    (keys : forall id, id ∈ after.heldLogs -> id = requestId ∨ id ∈ logs.heldLogs)
    (settled : logs.Settled) : after.Settled := by
  constructor
  · intro durable id member
    rw [flag] at durable
    rw [contexts]
    rcases keys id member with same | old
    · rcases waits.undecided with unknown | ⟨_, absent⟩
      · rw [unknown] at durable
        cases durable
      · exact same ▸ absent
    · exact settled.durable durable id old
  · intro notDurable
    rw [flag] at notDurable
    rcases waits.undecided with unknown | ⟨durable, _⟩
    · rw [unknown] at notDurable
      cases notDurable
    · rw [durable] at notDurable
      cases notDurable

/-- One call. -/
theorem Effect.settled (effect : logs.Effect env call released after) (settled : logs.Settled) :
    after.Settled := by
  cases effect with
  | ready | tagged | take => exact ⟨settled.durable, settled.notDurable⟩
  | append waits | store waits => exact settled.hold waits rfl rfl (fun id => mem_appendHeld.mp)
  | evict waits =>
    refine settled.hold waits rfl rfl (fun id member => ?_)
    rcases mem_appendHeld.mp member with same | old
    · exact Or.inl same
    · exact Or.inr (AList.mem_erase.mp old).2
  | known => exact settled
  | @insert requestId =>
    constructor
    · intro durable id member
      have other := AList.mem_erase.mp member
      intro known
      rcases (AList.mem_insert _).mp known with same | kept
      · exact other.1 same
      · exact settled.durable durable id other.2 (lookup_trimmed kept).1
    · intro notDurable
      apply AList.ext
      change (logs.heldLogs.erase requestId).entries = []
      rw [settled.notDurable notDurable]
      rfl
  | @resolve held kept =>
    constructor
    · intro _ id member known
      have present : (held.lookup id).isSome = true := AList.lookup_isSome.mpr member
      have inMap : id ∈ logs.durableContextMap := known
      rw [kept id, if_pos inMap] at present
      cases present
    · intro impossible
      cases impossible
  | release =>
    constructor
    · intro impossible
      cases impossible
    · intro _
      rfl
  | drain => exact ⟨fun _ id member => absurd member (AList.notMem_empty id), fun _ => rfl⟩

/-! ## Logs are held under their own request -/

/-- Where the logs held after a call come from. -/
theorem Effect.heldFor_origin (effect : logs.Effect env call released after) {id : String}
    {log : IntakeLog} (member : log ∈ after.heldFor id) :
    log ∈ logs.heldFor id ∨ logs.Waits env log id := by
  -- A log stored for `requestId` goes to the end of what was held for it.
  have stored : forall (before : HeldLogs) (requestId : String) (newLog : IntakeLog),
      logs.Waits env newLog requestId ->
      (log ∈ before.heldFor id -> log ∈ logs.heldFor id) ->
      log ∈ (before.appendHeld requestId newLog).heldFor id ->
      log ∈ logs.heldFor id ∨ logs.Waits env log id := by
    intro before requestId newLog waits old found
    rw [heldFor_appendHeld] at found
    split at found
    next same =>
      rcases List.mem_append.mp found with earlier | new
      · rw [same] at old ⊢
        exact Or.inl (old earlier)
      · rw [List.mem_singleton.mp new, same]
        exact Or.inr waits
    next => exact Or.inl (old found)
  cases effect with
  | ready | tagged | known | take => exact Or.inl member
  | append waits => exact stored _ _ _ waits (fun old => old) member
  | store waits =>
    exact stored { logs with heldLogsOrder := _ } _ _ waits (fun old => old) member
  | @evict newLog requestId oldest _ waits =>
    refine stored _ requestId newLog waits (fun old => ?_) member
    rw [heldFor_erase logs oldest rfl] at old
    split at old
    · cases old
    · exact old
  | @insert requestId =>
    rw [heldFor_erase logs requestId rfl] at member
    split at member
    · cases member
    · exact Or.inl member
  | @resolve held kept =>
    change log ∈ (held.lookup id).getD [] at member
    rw [kept id] at member
    split at member
    · cases member
    · exact Or.inl member
  | release | drain => cases member

theorem Effect.heldUnderRequest (effect : logs.Effect env call released after)
    (under : logs.HeldUnderRequest) :
    after.HeldUnderRequest := by
  intro id log member
  rcases effect.heldFor_origin member with old | waits
  · exact under id log old
  · exact ⟨waits.request, waits.plain⟩

/-- A log is tagged with what the map has for its own request after the call. -/
theorem Effect.tags (effect : logs.Effect env call released after) (under : logs.HeldUnderRequest)
    {release : Release} {context : DurableExecutionContext} (member : release ∈ released)
    (tagged : release.context = some context) :
    Exists fun requestId => release.log.message.lambda.requestId = some requestId ∧
      after.durableContextMap.lookup requestId = some context := by
  -- Logs that become ready without a context are never tagged.
  have untagged : forall held : List IntakeLog, release ∉ held.map Release.untagged := by
    intro held found
    rcases List.mem_map.mp found with ⟨log, _, same⟩
    rw [<- same] at tagged
    cases tagged
  have drained : release ∉ logs.drainReleases env := by
    intro found
    rcases List.mem_flatMap.mp found with ⟨entry, _, inEntry⟩
    exact untagged entry.2 inEntry
  cases effect with
  | @ready log => exact absurd member (untagged [log])
  | tagged _ _ request known =>
    obtain rfl := List.mem_singleton.mp member
    obtain rfl := Option.some.inj tagged
    exact ⟨_, request, known⟩
  | append | store | known | take => cases member
  | evict => exact absurd member (untagged _)
  | @insert requestId =>
    rcases List.mem_map.mp member with ⟨log, held, rfl⟩
    obtain rfl := Option.some.inj tagged
    exact ⟨requestId, (under requestId log held).1, AList.lookup_insert _⟩
  | resolve =>
    rcases List.mem_flatMap.mp member with ⟨⟨id, entryLogs⟩, entry, inEntry⟩
    have held := heldFor_of_mem_arranged entry
    cases known : logs.durableContextMap.lookup id with
    | none =>
      simp only [known] at inEntry
      cases inEntry
    | some =>
      simp only [known] at inEntry
      rcases List.mem_map.mp inEntry with ⟨log, inHeld, rfl⟩
      obtain rfl := Option.some.inj tagged
      exact ⟨id, (under id log (held.symm ▸ inHeld)).1, known⟩
  | release | drain => exact absurd member drained

/-! ## The order of the contexts -/

/-- Listing one more context that is not in the map. -/
theorem ContextsListed.push (requestId : String) (context : DurableExecutionContext)
    (listed : logs.ContextsListed) (absent : requestId ∉ logs.durableContextMap)
    (room : logs.durableContextOrder.length < durableContextMapCapacity)
    (order : after.durableContextOrder = logs.durableContextOrder ++ [requestId])
    (contexts : after.durableContextMap = logs.durableContextMap.insert requestId context) :
    after.ContextsListed := by
  refine ⟨?_, fun id => ?_, ?_⟩
  · rw [order, List.nodup_append]
    refine ⟨listed.nodup, List.nodup_singleton requestId, ?_⟩
    intro id member other new same
    rw [List.mem_singleton.mp new] at same
    exact absent (same ▸ (listed.keys id).mp member)
  · rw [order, contexts, List.mem_append, List.mem_singleton, AList.mem_insert, listed.keys id,
      or_comm]
  · rw [order, List.length_append]
    exact room

/-- After trimming there is room for one more. -/
theorem ContextsListed.trimmed (listed : logs.ContextsListed) :
    logs.trimmed.ContextsListed ∧
      logs.trimmed.durableContextOrder.length < durableContextMapCapacity := by
  rcases trimmed_cases logs with ⟨same, empty | room⟩ | ⟨oldest, rest, order, same⟩
  · rw [same, empty]
    exact ⟨listed, by decide⟩
  · rw [same]
    exact ⟨listed, room⟩
  · have distinct := List.nodup_cons.mp (order ▸ listed.nodup)
    have fewer : rest.length < durableContextMapCapacity := by
      have bounded := listed.bounded
      rw [order] at bounded
      exact bounded
    rw [same]
    refine ⟨⟨distinct.2, fun id => ?_, Nat.le_of_lt fewer⟩, fewer⟩
    have member := listed.keys id
    rw [order, List.mem_cons] at member
    rw [AList.mem_erase, <- member]
    constructor
    · intro later
      exact ⟨fun first => distinct.1 (first ▸ later), Or.inr later⟩
    · rintro ⟨different, first | later⟩
      · exact absurd first different
      · exact later

theorem Effect.contextsListed (effect : logs.Effect env call released after)
    (listed : logs.ContextsListed) :
    after.ContextsListed := by
  cases effect with
  | @insert requestId context absent =>
    have trimmed := listed.trimmed
    refine trimmed.1.push requestId context ?_ trimmed.2 rfl rfl
    exact fun kept => absent (lookup_trimmed kept).1
  | _ => exact ⟨listed.nodup, listed.keys, listed.bounded⟩

end HeldLogs

/-! ## The first context since the last eviction -/

namespace ContextEvent

/-- The context that the event passes in for a request. -/
def contextFor (id : String) : ContextEvent -> Option DurableExecutionContext
  | inserted requestId context => if requestId = id then some context else none
  | evicted _ => none

/-- The first context passed in for a request since it was last evicted. -/
def firstSinceEviction (id : String) (events : List ContextEvent) :
    Option DurableExecutionContext :=
  (events.rtakeWhile (fun event => event != evicted id)).findSome? (contextFor id)

variable (id : String) (events : List ContextEvent)

theorem firstSinceEviction_evicted (requestId : String) :
    firstSinceEviction id (events ++ [evicted requestId]) =
      if requestId = id then none else firstSinceEviction id events := by
  rw [firstSinceEviction, List.rtakeWhile_concat]
  by_cases same : requestId = id
  · rw [same, if_pos rfl, if_neg (by rw [bne_self_eq_false]; exact Bool.false_ne_true)]
    rfl
  · have other : (evicted requestId != evicted id) = true :=
      bne_iff_ne.mpr (fun equal => same (evicted.inj equal))
    rw [if_pos other, if_neg same, List.findSome?_append]
    exact Option.or_none

theorem firstSinceEviction_inserted (requestId : String) (context : DurableExecutionContext) :
    firstSinceEviction id (events ++ [inserted requestId context]) =
      if requestId = id then (firstSinceEviction id events).or (some context)
      else firstSinceEviction id events := by
  have kept : (inserted requestId context != evicted id) = true :=
    bne_iff_ne.mpr (fun equal => by cases equal)
  rw [firstSinceEviction, List.rtakeWhile_concat, if_pos kept, List.findSome?_append,
    List.findSome?_cons, contextFor]
  by_cases same : requestId = id
  · rw [if_pos same, if_pos same]
    rfl
  · rw [if_neg same, if_neg same]
    exact Option.or_none

theorem firstSinceEviction_evictions (ids : List String) :
    firstSinceEviction id (events ++ ids.map evicted) =
      if id ∈ ids then none else firstSinceEviction id events := by
  induction ids using List.reverseRecOn with
  | nil => rw [List.map_nil, List.append_nil, if_neg List.not_mem_nil]
  | append_singleton ids last ih =>
    rw [List.map_append, List.map_singleton, <- List.append_assoc, firstSinceEviction_evicted, ih]
    by_cases same : last = id
    · rw [if_pos same, if_pos (List.mem_append_right ids (List.mem_singleton.mpr same.symm))]
    · rw [if_neg same]
      have member : id ∈ ids ++ [last] <-> id ∈ ids := by
        rw [List.mem_append, List.mem_singleton]
        exact or_iff_left (fun equal => same equal.symm)
      by_cases earlier : id ∈ ids
      · rw [if_pos earlier, if_pos (member.mpr earlier)]
      · rw [if_neg earlier, if_neg (fun found => earlier (member.mp found))]

end ContextEvent

namespace BufferLedger

open ContextEvent

variable {env : LogsEnv} {ledger next : BufferLedger}

theorem Reached.settled (reached : ledger.Reached env) : ledger.buffers.Settled := by
  refine Reached.invariant (fun ledger => ledger.buffers.Settled) ?_ ?_ reached
  · constructor
    · intro impossible
      cases impossible
    · intro impossible
      cases impossible
  · intro ledger call after _ settled effect
    exact effect.settled settled

theorem Reached.heldUnderRequest (reached : ledger.Reached env) :
    ledger.buffers.HeldUnderRequest := by
  refine Reached.invariant (fun ledger => ledger.buffers.HeldUnderRequest) ?_ ?_ reached
  · intro id log member
    cases member
  · intro ledger call after _ under effect
    exact effect.heldUnderRequest under

theorem Reached.contextsListed (reached : ledger.Reached env) :
    ledger.buffers.ContextsListed := by
  refine Reached.invariant (fun ledger => ledger.buffers.ContextsListed) ?_ ?_ reached
  · exact ⟨List.nodup_nil, fun id => by simp [new, HeldLogs.new], Nat.zero_le _⟩
  · intro ledger call after _ listed effect
    exact effect.contextsListed listed

/-- The map has the context that the events say. -/
def ContextsRecorded (ledger : BufferLedger) : Prop :=
  forall id, ledger.buffers.durableContextMap.lookup id =
    firstSinceEviction id ledger.contextEvents

theorem evictions_same {before after : HeldLogs}
    (same : after.durableContextMap = before.durableContextMap) : evictions before after = [] := by
  rw [evictions, same, List.map_eq_nil_iff, List.filter_eq_nil_iff]
  intro id member
  rw [decide_eq_true_iff, not_not]
  exact AList.mem_keys.mpr member

/-- A call that leaves the contexts alone and inserts nothing. -/
theorem contextsRecorded_same {call : BufferCall} {after : HeldLogs}
    (recorded : ledger.ContextsRecorded) (inserts : call.inserts = [])
    (same : after.durableContextMap = ledger.buffers.durableContextMap) :
    (ledger.record env call after).ContextsRecorded := by
  intro id
  change after.durableContextMap.lookup id =
    firstSinceEviction id (ledger.contextEvents ++ evictions ledger.buffers after ++ call.inserts)
  rw [same, inserts, evictions_same same, List.append_nil, List.append_nil]
  exact recorded id

/-- A new context, and perhaps the eviction of another one. -/
theorem contextsRecorded_insert {requestId : String} {context : DurableExecutionContext}
    {after : HeldLogs} (recorded : ledger.ContextsRecorded)
    (absent : requestId ∉ ledger.buffers.durableContextMap)
    (contexts : after.durableContextMap =
      ledger.buffers.trimmed.durableContextMap.insert requestId context) :
    (ledger.record env (.insertToDurableContextMap requestId context)
      after).ContextsRecorded := by
  intro id
  change after.durableContextMap.lookup id = firstSinceEviction id (ledger.contextEvents ++
    evictions ledger.buffers after ++ [inserted requestId context])
  rw [firstSinceEviction_inserted, evictions, firstSinceEviction_evictions, <- recorded id]
  by_cases same : requestId = id
  · have unknown : id ∉ ledger.buffers.durableContextMap := same ▸ absent
    rw [if_pos same, AList.lookup_eq_none.mpr unknown, ite_self, contexts, <- same,
      AList.lookup_insert]
    rfl
  · rw [if_neg same, contexts, AList.lookup_insert_ne (fun equal => same equal.symm)]
    by_cases kept : id ∈ ledger.buffers.trimmed.durableContextMap
    · -- A context that is not evicted stays as it was.
      rw [(HeldLogs.lookup_trimmed kept).2, if_neg]
      intro evicted
      have gone := of_decide_eq_true (List.mem_filter.mp evicted).2
      exact gone ((AList.mem_insert _).mpr (Or.inr kept))
    · rw [AList.lookup_eq_none.mpr kept]
      by_cases present : id ∈ ledger.buffers.durableContextMap
      · rw [if_pos]
        refine List.mem_filter.mpr ⟨AList.mem_keys.mp present, decide_eq_true ?_⟩
        intro after_
        rcases (AList.mem_insert _).mp after_ with equal | still
        · exact same equal.symm
        · exact kept still
      · rw [AList.lookup_eq_none.mpr present, ite_self]

theorem Reached.contextsRecorded (reached : ledger.Reached env) : ledger.ContextsRecorded := by
  refine Reached.invariant ContextsRecorded (fun id => rfl) ?_ reached
  intro ledger call after _ recorded effect
  generalize call.releases env ledger.buffers = released at effect
  cases effect with
  | @known requestId context present =>
    intro id
    change ledger.buffers.durableContextMap.lookup id = firstSinceEviction id
      (ledger.contextEvents ++ evictions ledger.buffers ledger.buffers ++
        [inserted requestId context])
    rw [evictions_same rfl, List.append_nil, firstSinceEviction_inserted, <- recorded id]
    by_cases same : requestId = id
    · rcases Option.isSome_iff_exists.mp (AList.lookup_isSome.mpr (same ▸ present)) with
        ⟨first, found⟩
      rw [if_pos same, found]
      rfl
    · rw [if_neg same]
  | insert absent => exact contextsRecorded_insert recorded absent rfl
  | _ => exact contextsRecorded_same recorded rfl rfl

/-! ## What holds in every run -/

/-- Between any two calls no log waits for a context that is known, and with the
function known not to be durable none waits at all. -/
theorem no_log_waits_for_known_context (env : ProcessorEnv) :
    (forall ledger : BufferLedger, ledger.Reached env.toLogsEnv -> ledger.buffers.Settled) ∧
      forall (fuel : Nat) (calls : List LogsCall) (after : LogsProcessor),
        calls.foldlM (LogsCall.apply env fuel) LogsProcessor.new = some after ->
          after.lambda.buffers.Settled := by
  refine ⟨fun ledger reached => reached.settled, ?_⟩
  intro fuel calls after returns
  rcases LogsProcessor.recorded_foldlM calls LogsProcessor.recorded_new returns with
    ⟨ledger, reached, same, _⟩
  exact same ▸ reached.settled

end BufferLedger

namespace Release

/-- The log leaves with a durable execution id that it did not bring along. -/
def GetsTags (env : LogsEnv) (release : Release) : Prop :=
  release.log.message.lambda.durableExecutionId = none ∧
    (release.sent env).message.lambda.durableExecutionId.isSome = true

/-- The log leaves with the id and the name of the first context that was passed in
for its own request since the last eviction. -/
def CarriesFirstContext (env : LogsEnv) (events : List ContextEvent) (release : Release) : Prop :=
  Exists fun requestId => Exists fun context =>
    release.log.message.lambda.requestId = some requestId ∧
      ContextEvent.firstSinceEviction requestId events = some context ∧
      (release.sent env).message.lambda.durableExecutionId = some context.executionId ∧
      (release.sent env).message.lambda.durableExecutionName = some context.executionName

theorem sent_of_tagged {env : LogsEnv} {release : Release} {context : DurableExecutionContext}
    (tagged : release.context = some context) :
    (release.sent env).message.lambda.durableExecutionId = some context.executionId ∧
      (release.sent env).message.lambda.durableExecutionName = some context.executionName := by
  simp only [sent, tagged, HeldLogs.withDurableContext]
  split <;> split <;> exact ⟨rfl, rfl⟩

theorem tagged_of_getsTags {env : LogsEnv} {release : Release} (gets : release.GetsTags env) :
    Exists fun context => release.context = some context := by
  cases tagged : release.context with
  | some context => exact ⟨context, rfl⟩
  | none =>
    have own : release.sent env = release.log := by simp only [sent, tagged]
    have brought := gets.2
    rw [own, gets.1] at brought
    cases brought

end Release

namespace BufferLedger

/-- In every run the contexts are listed once each and within the capacity, and
each call makes ready only logs that carry their own attributes or the first
context of their request. -/
theorem tags_are_first_context_of_request {env : LogsEnv} {ledger : BufferLedger}
    (reached : ledger.Reached env) :
    ledger.buffers.ContextsListed ∧
      forall (fuel : Nat) (call : BufferCall) (next : BufferLedger),
        ledger.step env fuel call = some next ->
        next.taken ++ next.buffers.readyLogs = next.released.filterMap (Release.text env) ∧
          next.released = ledger.released ++ call.releases env ledger.buffers ∧
          forall release, release ∈ call.releases env ledger.buffers ->
            release.GetsTags env -> release.CarriesFirstContext env next.contextEvents := by
  refine ⟨reached.contextsListed, fun fuel call next returns => ?_⟩
  have nextReached : next.Reached env := .step fuel reached trivial returns
  rcases reached.effect returns with ⟨effect, same⟩
  refine ⟨nextReached.texts, congrArg BufferLedger.released same, ?_⟩
  intro release member gets
  rcases Release.tagged_of_getsTags gets with ⟨context, tagged⟩
  rcases effect.tags reached.heldUnderRequest member tagged with ⟨requestId, request, known⟩
  refine ⟨requestId, context, request, ?_, Release.sent_of_tagged tagged⟩
  rw [<- nextReached.contextsRecorded requestId]
  exact known

/-- The ledger after one log of `r1` was held. -/
def firstHeld (size : Nat) : BufferLedger :=
  new.record (HeldLogs.processorWithRoom size)
    (.queueLogAfterRules (HeldLogs.functionLog "r1" "hello"))
    HeldLogs.firstHeld

/-- The ledger after the function then turned out to be durable. -/
def heldThenDurable (size : Nat) : BufferLedger :=
  (firstHeld size).record (HeldLogs.processorWithRoom size) (.platformInitStart true)
    HeldLogs.heldThenDurable

theorem firstHeld_reached : (firstHeld 2).Reached (HeldLogs.processorWithRoom 2) :=
  @Reachable.step _ _ new (firstHeld 2)
    (.queueLogAfterRules (HeldLogs.functionLog "r1" "hello")) 1 .new trivial rfl

theorem heldThenDurable_reached : (heldThenDurable 2).Reached (HeldLogs.processorWithRoom 2) :=
  @Reachable.step _ _ (firstHeld 2) (heldThenDurable 2) (.platformInitStart true) 0
    firstHeld_reached trivial rfl

/-- The context of `r1` arrives when its log is already held. -/
theorem tags_are_first_context_of_request_held :
    let env := HeldLogs.processorWithRoom 2
    let arrives := .insertToDurableContextMap "r1" ⟨"id", "name", none, none⟩
    let release := Release.tagged ⟨"id", "name", none, none⟩ (HeldLogs.functionLog "r1" "hello")
    Exists fun next =>
      (heldThenDurable 2).Reached env ∧ (heldThenDurable 2).step env 0 arrives = some next ∧
        release.GetsTags env ∧ release.CarriesFirstContext env next.contextEvents := by
  intro env arrives release
  have gets : release.GetsTags env := ⟨rfl, by rw [(Release.sent_of_tagged rfl).1]; rfl⟩
  have member : release ∈ arrives.releases env (heldThenDurable 2).buffers := List.mem_cons_self
  have carries := (tags_are_first_context_of_request heldThenDurable_reached).2 0 arrives _ rfl
  exact ⟨_, heldThenDurable_reached, rfl, gets, carries.2.2 release member gets⟩

end BufferLedger
end Logs
end Bottlecap
