import Bottlecap.Flushing.Service

namespace Bottlecap
namespace Flushing

open Foundations Logs

/-!
# Two flush rounds

A run of `spawn_non_blocking` and `await_handles` is a round of flushes that drain the
aggregators, and a round of redrives.  For each round an account says which payloads it
took out of an aggregator and failed to deliver, and which it attempted to send.
-/

/-- A payload with its endpoint. -/
inductive Item (Chunk Stat Body : Type) where
  | log (request : Request Bytes)
  | trace (endpoint : Endpoint) (chunk : Chunk)
  | stats (stat : Stat)
  | proxy (request : Request Body)

structure Account (Chunk Stat Body : Type) where
  /-- Taken out of an aggregator in the round and not delivered, for a reason that another
  attempt may remove. -/
  undelivered : Item Chunk Stat Body -> Prop
  attempted : Item Chunk Stat Body -> Prop

/-- What a round fails to deliver is attempted in a later one. -/
def Followed {Chunk Stat Body : Type} : List (Account Chunk Stat Body) -> Prop
  | [] => True
  | account :: later =>
    (forall item, account.undelivered item ->
      Exists fun next => next ∈ later ∧ next.attempted item) ∧
      Followed later

/-- What four flushers did. -/
structure Flushes (Chunk Stat Body : Type) where
  logs : Flushed (Request Bytes)
  traces : Flushed (SendData Chunk)
  stats : Flushed (List Stat)
  proxy : Flushed (Request Body)

variable {Chunk Stat Body Series Sketch : Type}

def Flushes.Attempted (flushes : Flushes Chunk Stat Body) : Item Chunk Stat Body -> Prop
  | .log request => flushes.logs.Attempted request
  | .trace endpoint chunk => SentAt flushes.traces endpoint chunk
  | .stats stat =>
    Exists fun batch => flushes.stats.Attempted batch ∧ stat ∈ batch
  | .proxy request => flushes.proxy.Attempted request

/-- A flush of what the aggregator holds makes the chunk part of one of its vectors. -/
def TraceFlusher.Takes (flusher : TraceFlusher) (round : TraceRound Chunk) (endpoint : Endpoint)
    (chunk : Chunk) : Prop :=
  Exists fun apiKey => round.getApiKey = some apiKey ∧
    Exists fun task => task ∈ flusher.fresh round apiKey ∧
      (endpoint, chunk) ∈ addressed task.1

/-- No trace that a flush takes is given up after an error status to each of its attempts. -/
def TraceFlusher.NoneGivenUp (flusher : TraceFlusher) (utils : TraceUtils Chunk)
    (round : TraceRound Chunk) : Prop :=
  forall apiKey, round.getApiKey = some apiKey -> forall task, task ∈ flusher.fresh round apiKey ->
    forall trace, trace ∈ utils.coalesceSendData task.1 ->
      round.result task.2 trace ≠ .answered

namespace FlushingService

variable (service : FlushingService Chunk Stat Body Series Sketch) (utils : TraceUtils Chunk)

/-- What is taken out of the aggregators by flushes that drain them, and not delivered. -/
def Undelivered (round : Round Chunk Stat Body Series Sketch) (flushes : Flushes Chunk Stat Body) :
    Item Chunk Stat Body -> Prop
  | .log request =>
    request ∈ service.logsFlusher.requests round.logs ∧
      Flusher.send round.logs request = .exhausted
  | .trace endpoint chunk =>
    service.traceFlusher.Takes round.traces endpoint chunk ∧
      ¬ AcceptedAt flushes.traces endpoint chunk
  | .stats stat =>
    Exists fun batch => batch ∈ round.stats.getBatches false ∧ stat ∈ batch ∧
      StatsFlusher.outcome round.stats batch = .exhausted
  | .proxy request =>
    request ∈ ProxyFlusher.requests round.proxy ∧
      ProxyFlusher.send round.proxy request = .exhausted

/-- The flushes of `spawn_non_blocking`. -/
def spawnedFlushes (round : Round Chunk Stat Body Series Sketch) : Flushes Chunk Stat Body :=
  ⟨service.logsFlusher.flush round.logs none, service.traceFlusher.flush utils round.traces none,
    StatsFlusher.flush round.stats false none, ProxyFlusher.flush round.proxy none⟩

def spawnAccount (round : Round Chunk Stat Body Series Sketch) : Account Chunk Stat Body :=
  ⟨service.Undelivered round (service.spawnedFlushes utils round),
    (service.spawnedFlushes utils round).Attempted⟩

end FlushingService

namespace Redrive

/-- What the task of a redrive does in its round. -/
def run (service : FlushingService Chunk Stat Body Series Sketch) (utils : TraceUtils Chunk)
    (round : Round Chunk Stat Body Series Sketch) :
    Redrive Chunk Stat Body Series Sketch -> Flushes Chunk Stat Body
  | .stats retry =>
    ⟨Flushed.nothing, Flushed.nothing, StatsFlusher.flush round.stats false (some retry),
      Flushed.nothing⟩
  | .traces retry =>
    ⟨Flushed.nothing, service.traceFlusher.flush utils round.traces (some retry),
      Flushed.nothing, Flushed.nothing⟩
  | .logs item =>
    ⟨service.logsFlusher.flush round.logs (some item), Flushed.nothing, Flushed.nothing,
      Flushed.nothing⟩
  | .metrics _ =>
    ⟨Flushed.nothing, Flushed.nothing, Flushed.nothing, Flushed.nothing⟩
  | .proxy batch =>
    ⟨Flushed.nothing, Flushed.nothing, Flushed.nothing,
      ProxyFlusher.flush round.proxy (some batch)⟩

/-- The redrive drains the aggregator that the item is in: the one of stats always, the one
of traces when the retried traces are delivered, the one of proxied requests when there is
nothing to retry. -/
def Drains (utils : TraceUtils Chunk) (round : Round Chunk Stat Body Series Sketch) :
    Redrive Chunk Stat Body Series Sketch -> Item Chunk Stat Body -> Prop
  | .stats _, .stats _ => True
  | .traces retry, .trace _ _ =>
    (sendTraces utils (round.traces.result 0) retry).failed = []
  | .proxy batch, .proxy _ => batch = []
  | _, _ => False

/-- The keys that the redrive asks for resolve. -/
def KeysResolve (round : Round Chunk Stat Body Series Sketch) : Prop :=
  round.traces.getApiKey.isSome = true ∧ round.proxy.getApiKey.isSome = true ∧
    forall stats, (round.stats.getApiKey stats).isSome = true

/-- The redrive finds nothing in an aggregator that it drains, its stats make a request,
and at most the last of its traces fails. -/
def Calm (utils : TraceUtils Chunk) (round : Round Chunk Stat Body Series Sketch) :
    Redrive Chunk Stat Body Series Sketch -> Prop
  | .stats retry =>
    round.stats.getBatches false = [] ∧ round.stats.serializes retry = true ∧
      forall apiKey, round.stats.builds apiKey = true
  | .traces retry =>
    (forall chunk, ¬ round.traces.Holds chunk) ∧
      forall trace, trace ∈ (utils.coalesceSendData retry).dropLast ->
        round.traces.result 0 trace ≠ .error
  | .logs _ => True
  | .metrics _ => True
  | .proxy batch => batch = [] -> round.proxy.queue = []

end Redrive

/-- The redrives that `await_handles` spawns, each in its own round. -/
def FlushingService.redriveAccount (service : FlushingService Chunk Stat Body Series Sketch)
    (utils : TraceUtils Chunk)
    (again : Redrive Chunk Stat Body Series Sketch -> Round Chunk Stat Body Series Sketch) :
    Account Chunk Stat Body :=
  { undelivered := fun item =>
      Exists fun task =>
        task ∈ service.awaitHandles.redrives ∧ task.Drains utils (again task) item ∧
          service.Undelivered (again task) (task.run service utils (again task)) item
    attempted := fun item =>
      Exists fun task => task ∈ service.awaitHandles.redrives ∧
          (task.run service utils (again task)).Attempted item }

/-! ## What is returned is redriven -/

section Handles

variable {handles : FlushHandles Chunk Stat Body Series Sketch}

theorem stats_mem_redrives {retry : List Stat} (returned : retry ∈ outputs handles.statsFlushHandles)
    (nonempty : retry ≠ []) : .stats retry ∈ handles.redrives := by
  simp [FlushHandles.redrives, returned, nonempty]

theorem traces_mem_redrives {retry : List (SendData Chunk)}
    (returned : retry ∈ outputs handles.traceFlushHandles) (nonempty : retry ≠ []) :
    .traces retry ∈ handles.redrives := by
  simp [FlushHandles.redrives, returned, nonempty]

theorem logs_mem_redrives {retry : List (Request Bytes)} {item : Request Bytes}
    (returned : retry ∈ outputs handles.logFlushHandles) (member : item ∈ retry)
    (clonable : item.clonable = true) : .logs item ∈ handles.redrives := by
  have listed : Exists fun items =>
      items ∈ outputs handles.logFlushHandles ∧ item ∈ items := ⟨retry, returned, member⟩
  simp [FlushHandles.redrives, listed, clonable]

theorem proxy_mem_redrives {batch : List (Request Body)}
    (returned : batch ∈ outputs handles.proxyFlushHandles) :
    .proxy batch ∈ handles.redrives := by
  simp [FlushHandles.redrives, returned]

variable {service after : FlushingService Chunk Stat Body Series Sketch} {utils : TraceUtils Chunk}
variable {round : Round Chunk Stat Body Series Sketch}

/-- A spawn that does not panic adds the handles of its flushes. -/
theorem spawnNonBlocking_result (spawned : service.spawnNonBlocking utils round = some after) :
    Exists fun metric => after = { service with
        handles :=
          { logFlushHandles := service.handles.logFlushHandles ++
              [JoinHandle.spawn (service.logsFlusher.flush round.logs none).failed]
            traceFlushHandles := service.handles.traceFlushHandles ++
              [JoinHandle.spawn (service.traceFlusher.flush utils round.traces none).failed]
            metricFlushHandles := service.handles.metricFlushHandles ++
              (List.range service.metricsFlushers).map metric
            statsFlushHandles := service.handles.statsFlushHandles ++
              [JoinHandle.spawn (StatsFlusher.flush round.stats false none).failed.flatten]
            proxyFlushHandles := service.handles.proxyFlushHandles ++
              [JoinHandle.spawn (ProxyFlusher.flush round.proxy none).failed] } } := by
  rw [FlushingService.spawnNonBlocking] at spawned
  cases response : round.metrics.flush with
  | none =>
    rw [response] at spawned
    cases spawned
  | some =>
    rw [response] at spawned
    exact ⟨_, (Option.some.inj spawned).symm⟩

/-- What the spawned flushes return is what awaiting their handles gives. -/
theorem spawn_outputs (spawned : service.spawnNonBlocking utils round = some after) :
    (service.logsFlusher.flush round.logs none).failed ∈ outputs after.handles.logFlushHandles ∧
      (service.traceFlusher.flush utils round.traces none).failed ∈
        outputs after.handles.traceFlushHandles ∧
      (StatsFlusher.flush round.stats false none).failed.flatten ∈
        outputs after.handles.statsFlushHandles ∧
      (ProxyFlusher.flush round.proxy none).failed ∈ outputs after.handles.proxyFlushHandles := by
  rcases spawnNonBlocking_result spawned with ⟨metric, rfl⟩
  exact ⟨mem_outputs_push _ _, mem_outputs_push _ _, mem_outputs_push _ _, mem_outputs_push _ _⟩

end Handles

/-! ## What is redriven is attempted -/

section Attempts

theorem attempted_log_redrive (flusher : LogsFlusher) {round : LogsRound} {item : Request Bytes}
    (clonable : item.clonable = true) : (flusher.flush round (some item)).Attempted item := by
  rw [LogsFlusher.flush, if_pos clonable]
  exact attempted_sendAll.mpr
    ⟨List.mem_cons_self, sendRequest_ne_unsent (Flusher.settle_ne (by decide)) _ clonable⟩

theorem attempted_proxy_redrive {round : ProxyRound Body} {batch : List (Request Body)}
    {request : Request Body} (key : round.getApiKey.isSome = true) (member : request ∈ batch)
    (clonable : request.clonable = true) :
    (ProxyFlusher.flush round (some batch)).Attempted request := by
  rcases Option.isSome_iff_exists.mp key with ⟨apiKey, resolved⟩
  have nonempty : (!batch.isEmpty) = true := by
    cases batch with
    | nil => exact absurd member List.not_mem_nil
    | cons => rfl
  rw [ProxyFlusher.flush, resolved]
  refine attempted_sendAll.mpr ⟨(round.joined.perm _).mem_iff.mpr ?_,
    sendRequest_ne_unsent (ProxyFlusher.settle_ne (by decide)) _ clonable⟩
  rw [Option.getD_some, if_pos nonempty]
  exact member

theorem attempted_stats_redrive {round : StatsRound Stat} {retry : List Stat}
    (nonempty : retry ≠ []) (key : (round.getApiKey retry).isSome = true)
    (serializes : round.serializes retry = true)
    (builds : forall apiKey, round.builds apiKey = true) :
    (StatsFlusher.flush round false (some retry)).Attempted retry := by
  rcases Option.isSome_iff_exists.mp key with ⟨apiKey, resolved⟩
  have settles : StatsFlusher.outcome round retry =
      settled StatsFlusher.settle flushRetryCount (round.replies retry) := by
    rw [StatsFlusher.outcome, List.isEmpty_eq_false_iff.mpr nonempty, resolved]
    simp [serializes, StatsFlusher.sendWithRetry, builds]
  have sent : StatsFlusher.outcome round retry ≠ .unsent := by
    rw [settles]
    exact settled_ne_unsent StatsFlusher.settle_ne_unsent _ _
  exact attempted_concat.mpr
    ⟨StatsFlusher.send round retry, List.mem_cons_self,
      attempted_sendAll.mpr ⟨List.mem_cons_self, sent⟩⟩

/-- A chunk that a flush of the aggregator takes and does not deliver is handed back. -/
theorem returnedAt_of_takes {flusher : TraceFlusher} {utils : TraceUtils Chunk}
    {round : TraceRound Chunk} {endpoint : Endpoint} {chunk : Chunk}
    (heard : flusher.NoneGivenUp utils round) (takes : flusher.Takes round endpoint chunk)
    (undelivered : ¬ AcceptedAt (flusher.flush utils round none) endpoint chunk) :
    ReturnedAt (flusher.flush utils round none) endpoint chunk := by
  rcases takes with ⟨apiKey, key, task, made, listed⟩
  have sent : task ∈ flusher.tasks utils round none := by
    rw [TraceFlusher.tasks, key]
    exact List.mem_cons_of_mem _ made
  refine (returnedAt_flush utils flusher).mpr
    ⟨task, sent, (returnedAt_sendTraces utils).mpr ⟨?_, listed⟩⟩
  -- Did no element fail, the one with the chunk would be delivered.
  by_contra clean
  rcases mem_addressed.mp ((mem_addressed_coalesce utils).mpr listed) with ⟨trace, member, carries⟩
  refine undelivered ((acceptedAt_flush utils flusher).mpr ⟨task, sent,
    (acceptedAt_sendTraces_iff utils clean).mpr ⟨trace, ⟨member, ?_⟩, carries⟩⟩)
  cases ended : round.result task.2 trace with
  | delivered => rfl
  | answered => exact absurd ended (heard apiKey key task made trace member)
  | error => exact absurd ⟨trace, member, ended⟩ clean

end Attempts

/-! ## The run -/

section Run

variable {service after : FlushingService Chunk Stat Body Series Sketch} {utils : TraceUtils Chunk}
variable {round : Round Chunk Stat Body Series Sketch}
variable {again : Redrive Chunk Stat Body Series Sketch -> Round Chunk Stat Body Series Sketch}

/-- A redrive that finds its aggregator empty takes nothing. -/
theorem not_undelivered_of_calm {task : Redrive Chunk Stat Body Series Sketch}
    {flushes : Flushes Chunk Stat Body} (calm : task.Calm utils round)
    {item : Item Chunk Stat Body} (drains : task.Drains utils round item) :
    ¬ service.Undelivered round flushes item := by
  cases task with
  | stats =>
    cases item with
    | stats =>
      rintro ⟨batch, taken, _⟩
      rw [calm.1] at taken
      exact List.not_mem_nil taken
    | log | trace | proxy => exact drains.elim
  | traces =>
    cases item with
    | trace _ chunk =>
      rintro ⟨⟨apiKey, key, task, made, listed⟩, _⟩
      exact calm.1 chunk (holds_of_mem_fresh _ made listed)
    | log | stats | proxy => exact drains.elim
  | logs | metrics => exact drains.elim
  | proxy =>
    cases item with
    | proxy =>
      rintro ⟨made, _⟩
      rw [ProxyFlusher.requests, calm drains] at made
      cases key : round.proxy.getApiKey with
      | none | some =>
        rw [key] at made
        exact List.not_mem_nil made
    | log | trace | stats => exact drains.elim

/-- What the spawned flushes fail to deliver is attempted by a redrive. -/
theorem attempted_of_undelivered (spawned : service.spawnNonBlocking utils round = some after)
    (heard : service.traceFlusher.NoneGivenUp utils round.traces)
    (keys : forall task, task ∈ after.awaitHandles.redrives -> Redrive.KeysResolve (again task))
    (calm : forall task, task ∈ after.awaitHandles.redrives -> task.Calm utils (again task))
    {item : Item Chunk Stat Body}
    (undelivered : (service.spawnAccount utils round).undelivered item) :
    (after.redriveAccount utils again).attempted item := by
  rcases spawn_outputs spawned with ⟨logs, traces, stats, proxy⟩
  cases item with
  | log request =>
    have failed := mem_failed_logs.mpr undelivered
    have clonable := clonable_of_exhausted undelivered.2
    exact ⟨.logs request, logs_mem_redrives logs failed clonable,
      attempted_log_redrive after.logsFlusher clonable⟩
  | trace =>
    have returned := returnedAt_of_takes heard undelivered.1 undelivered.2
    have nonempty : (service.traceFlusher.flush utils round.traces none).failed ≠ [] := by
      intro none
      rw [ReturnedAt, none] at returned
      exact List.not_mem_nil returned
    have member := traces_mem_redrives traces nonempty
    rcases Option.isSome_iff_exists.mp (keys _ member).1 with ⟨apiKey, key⟩
    have sent := sentAt_redrive utils after.traceFlusher key (calm _ member).2 returned
    rw [TraceFlusher.redrive, List.isEmpty_eq_false_iff.mpr nonempty] at sent
    exact ⟨_, member, sent⟩
  | stats stat =>
    rcases undelivered with ⟨batch, taken, listed, ended⟩
    have failed : stat ∈ (StatsFlusher.flush round.stats false none).failed.flatten :=
      List.mem_flatten.mpr ⟨batch, StatsFlusher.mem_failed_flush.mpr ⟨taken, ended⟩, listed⟩
    have nonempty := List.ne_nil_of_mem failed
    have member := stats_mem_redrives stats nonempty
    exact ⟨_, member, _,
      attempted_stats_redrive nonempty ((keys _ member).2.2 _) (calm _ member).2.1
        (calm _ member).2.2,
      failed⟩
  | proxy =>
    have failed := ProxyFlusher.mem_failed_flush.mpr undelivered
    have member := proxy_mem_redrives proxy
    exact ⟨_, member, attempted_proxy_redrive (keys _ member).2.1 failed
      (clonable_of_exhausted undelivered.2)⟩

/-- In a run that gives no trace up and whose redrives are calm, whatever a round takes and
fails to deliver is attempted in a later round. -/
theorem calm_run_followed (spawned : service.spawnNonBlocking utils round = some after)
    (heard : service.traceFlusher.NoneGivenUp utils round.traces)
    (keys : forall task, task ∈ after.awaitHandles.redrives -> Redrive.KeysResolve (again task))
    (calm : forall task, task ∈ after.awaitHandles.redrives -> task.Calm utils (again task)) :
    Followed [service.spawnAccount utils round, after.redriveAccount utils again] := by
  refine ⟨?_, ?_, trivial⟩
  · intro item undelivered
    exact ⟨_, List.mem_cons_self, attempted_of_undelivered spawned heard keys calm undelivered⟩
  · rintro item ⟨task, member, drains, undelivered⟩
    exact absurd undelivered (not_undelivered_of_calm (calm task member) drains)

end Run

/-! ## Two runs -/

/-- A stats payload waits in the aggregator. -/
def Round.withStats : Round Nat Nat Nat Nat Nat :=
  { Round.down with stats := { Round.down.stats with getBatches := fun _ => [[7]] } }

/-- A proxied request waits in the aggregator. -/
def Round.withProxy : Round Nat Nat Nat Nat Nat :=
  { Round.down with
    proxy := { Round.down.proxy with queue := [⟨7, "https://trace.agent.datadoghq.com"⟩] } }

/-- The service after a spawn in the given round. -/
def FlushingService.afterSpawn (round : Round Nat Nat Nat Nat Nat) :
    FlushingService Nat Nat Nat Nat Nat :=
  (FlushingService.idle.spawnNonBlocking TraceUtils.separate round).getD FlushingService.idle

/-- Stats that fail while the intake is down are attempted again when nothing else comes. -/
theorem calm_run_followed_stats :
    (FlushingService.idle.spawnAccount TraceUtils.separate Round.withStats).undelivered
        (.stats 7) ∧
      Followed [FlushingService.idle.spawnAccount TraceUtils.separate Round.withStats,
        (FlushingService.afterSpawn Round.withStats).redriveAccount TraceUtils.separate
          (fun _ => Round.down)] := by
  have tasks : (FlushingService.afterSpawn Round.withStats).awaitHandles.redrives =
      [.stats [7], .proxy []] := rfl
  have spawned : FlushingService.idle.spawnNonBlocking TraceUtils.separate Round.withStats =
      some (FlushingService.afterSpawn Round.withStats) := rfl
  refine ⟨⟨[7], List.mem_cons_self, List.mem_cons_self, rfl⟩,
    calm_run_followed spawned (fun _ _ _ => nofun) (fun _ _ => ⟨rfl, rfl, fun _ => rfl⟩) ?_⟩
  intro task member
  rcases List.mem_cons.mp member with rfl | later
  · exact ⟨rfl, rfl, fun _ => rfl⟩
  · cases List.mem_singleton.mp later
    exact fun _ => rfl

/-- The redrive of no proxied requests takes the request that was added in between, and
what becomes of it goes nowhere. -/
theorem redrive_drops_fresh_request :
    FlushingService.idle.spawnNonBlocking TraceUtils.separate Round.down =
        some (FlushingService.afterSpawn Round.down) ∧
      (forall task : Redrive Nat Nat Nat Nat Nat,
        task ∈ (FlushingService.afterSpawn Round.down).awaitHandles.redrives ->
          Redrive.KeysResolve Round.withProxy) ∧
      ¬ Followed [FlushingService.idle.spawnAccount TraceUtils.separate Round.down,
        (FlushingService.afterSpawn Round.down).redriveAccount TraceUtils.separate
          (fun _ => Round.withProxy)] := by
  refine ⟨rfl, fun _ _ => ⟨rfl, rfl, fun _ => rfl⟩, ?_⟩
  rintro ⟨_, dropped, _⟩
  rcases dropped (.proxy ⟨"https://trace.agent.datadoghq.com", "key", 7, true⟩)
      ⟨.proxy [], List.mem_cons_self, rfl, List.mem_cons_self, rfl⟩ with ⟨next, member, _⟩
  exact List.not_mem_nil member

end Flushing
end Bottlecap
