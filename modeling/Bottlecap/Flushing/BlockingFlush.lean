import Bottlecap.Flushing.Service

namespace Bottlecap
namespace Flushing

open Foundations Logs

/-!
# What a blocking flush reports

`flush_blocking_inner` returns `true` when a flusher hands payloads back.  For each flusher
there are three statements about what a flush meets: that it hands something back, that all
it takes out of its aggregator is accepted, and that it loses nothing without a word.  The
second and the third agree whenever the first does not hold.
-/

theorem not_isEmpty_iff {Entry : Type} {entries : List Entry} :
    (!entries.isEmpty) = true <-> Exists fun entry => entry ∈ entries := by
  cases entries with
  | nil => simp
  | cons => simp

/-! ## Logs -/

namespace LogsFlusher

variable (flusher : LogsFlusher) (round : LogsRound)

/-- The attempts of a request are exhausted. -/
def Reports : Prop :=
  Exists fun request => request ∈ flusher.requests round ∧
    Flusher.send round request = .exhausted

/-- Every endpoint took every batch. -/
def Delivers : Prop :=
  forall endpoint, endpoint ∈ flusher.flushers ->
    forall batch, batch ∈ round.getBatches.getD [] -> batch ≠ [] ->
      Exists fun apiKey => endpoint.apiKey = some apiKey ∧
        (flusher.flush round none).Accepted
          (endpoint.createRequest flusher.config round (flusher.compress batch) apiKey)

/-- Every endpoint has its key, and no request is denied or cannot be cloned. -/
def LosesNothing : Prop :=
  forall endpoint, endpoint ∈ flusher.flushers ->
    forall batch, batch ∈ round.getBatches.getD [] -> batch ≠ [] ->
      Exists fun apiKey => endpoint.apiKey = some apiKey ∧
        ¬ (Flusher.send round
          (endpoint.createRequest flusher.config round (flusher.compress batch) apiKey)).Silent

variable {flusher round}

theorem hands_back_iff :
    (!(flusher.flush round none).failed.isEmpty) = true <-> flusher.Reports round := by
  rw [not_isEmpty_iff]
  exact exists_congr (fun _ => mem_failed_logs)

theorem delivers_iff (quiet : ¬ flusher.Reports round) :
    flusher.Delivers round <-> flusher.LosesNothing round := by
  refine forall_congr' (fun endpoint => imp_congr_right (fun member => forall_congr' (fun batch =>
    imp_congr_right (fun taken => imp_congr_right (fun nonempty =>
      exists_congr (fun apiKey => and_congr_right (fun key => ?_)))))))
  have made := mem_requests.mpr
    ⟨endpoint, member, apiKey, key, batch, taken, compress_ne_nil flusher nonempty, rfl⟩
  rw [accepted_logs, and_iff_right made]
  exact Outcome.accepted_iff_not_silent (fun ended => quiet ⟨_, made, ended⟩)

end LogsFlusher

/-! ## Metrics -/

namespace MetricsRound

variable {Series Sketch : Type} (round : MetricsRound Series Sketch) (flushers : Nat)

/-- The reply of a flusher to what the aggregator gave. -/
def reply (idx : Nat) : MetricsReply Series Sketch :=
  round.flushMetrics idx (round.flush.getD ⟨[], []⟩).series (round.flush.getD ⟨[], []⟩).distributions

def HandsBack (idx : Nat) : Prop :=
  Exists fun failed => (round.reply idx).failed = some failed ∧
    (failed.1 ≠ [] ∨ failed.2 ≠ [])

/-- The aggregator is gone, or a flusher hands metrics back. -/
def Reports : Prop :=
  round.flush = none ∨ Exists fun idx => idx < flushers ∧ round.HandsBack idx

/-- Every endpoint took what the aggregator gave. -/
def Delivers : Prop :=
  forall response, round.flush = some response -> response.series ≠ [] ∨ response.distributions ≠ [] ->
    forall idx, idx < flushers -> (round.reply idx).accepted = true

/-- A flusher hands back what its endpoint did not take. -/
def LosesNothing : Prop :=
  forall response, round.flush = some response -> response.series ≠ [] ∨ response.distributions ≠ [] ->
    forall idx, idx < flushers -> (round.reply idx).accepted = false -> round.HandsBack idx

variable {round flushers}

theorem hands_back_iff :
    (round.flush.isNone || ((List.range flushers).map (fun idx => (round.reply idx).failed)).any
      (fun retry => retry.any (fun failed => !failed.1.isEmpty || !failed.2.isEmpty))) = true <->
      round.Reports flushers := by
  rw [Bool.or_eq_true, Option.isNone_iff_eq_none, List.any_map, List.any_eq_true]
  refine or_congr_right (exists_congr (fun idx => and_congr List.mem_range ?_))
  rw [Function.comp_apply, HandsBack]
  cases (round.reply idx).failed with
  | none => simp
  | some => simp

theorem delivers_iff (quiet : ¬ round.Reports flushers) :
    round.Delivers flushers <-> round.LosesNothing flushers := by
  refine forall_congr' (fun response => imp_congr_right (fun _ => imp_congr_right (fun _ =>
    forall_congr' (fun idx => imp_congr_right (fun small => ?_)))))
  have kept : ¬ round.HandsBack idx := fun handed => quiet (Or.inr ⟨idx, small, handed⟩)
  cases (round.reply idx).accepted <;> simp [kept]

end MetricsRound

/-! ## Traces -/

namespace TraceFlusher

variable {Chunk : Type} (flusher : TraceFlusher) (utils : TraceUtils Chunk)
variable (round : TraceRound Chunk)

/-- An element of a vector fails. -/
def Reports : Prop :=
  Exists fun apiKey => round.getApiKey = some apiKey ∧
    Exists fun task => task ∈ flusher.fresh round apiKey ∧
      task.1 ≠ [] ∧ Stops utils (round.result task.2) task.1

/-- The chunk's own endpoint and every additional one took every chunk. -/
def Delivers : Prop :=
  forall builders, builders ∈ round.getBatches.getD [] -> forall builder, builder ∈ builders ->
    forall chunk, chunk ∈ builder.payloads ->
      Exists fun apiKey => round.getApiKey = some apiKey ∧
        AcceptedAt (flusher.flush utils round none) (builder.build apiKey).target chunk ∧
          forall endpoint, endpoint ∈ flusher.additionalEndpoints ->
            AcceptedAt (flusher.flush utils round none) endpoint chunk

/-- A vector has an element with the chunk for the endpoint that is not given up after an
error status to each of its attempts. -/
def KeepsAt (apiKey : String) (endpoint : Endpoint) (chunk : Chunk) : Prop :=
  Exists fun task => task ∈ flusher.fresh round apiKey ∧
    Exists fun trace => (trace ∈ utils.coalesceSendData task.1 ∧
      round.result task.2 trace ≠ .answered) ∧ trace.Carries endpoint chunk

/-- The key resolves, and no chunk is given up at an endpoint. -/
def LosesNothing : Prop :=
  forall builders, builders ∈ round.getBatches.getD [] -> forall builder, builder ∈ builders ->
    forall chunk, chunk ∈ builder.payloads ->
      Exists fun apiKey => round.getApiKey = some apiKey ∧
        flusher.KeepsAt utils round apiKey (builder.build apiKey).target chunk ∧
          forall endpoint, endpoint ∈ flusher.additionalEndpoints ->
            flusher.KeepsAt utils round apiKey endpoint chunk

variable {flusher utils round}

theorem failed_sendTraces_iff {vector : List (SendData Chunk)}
    {result : SendData Chunk -> SendResult} :
    (Exists fun trace => trace ∈ (sendTraces utils result vector).failed) <->
      vector ≠ [] ∧ Stops utils result vector := by
  cases vector with
  | nil => simp [sendTraces]
  | cons first rest =>
    rw [and_iff_right (List.cons_ne_nil first rest), <- any_error_iff, <- not_isEmpty_iff,
      Bool.not_eq_true', List.isEmpty_eq_false_iff]
    exact failed_sendInOrder_ne_nil_iff

theorem hands_back_iff :
    (!(flusher.flush utils round none).failed.isEmpty) = true <-> flusher.Reports utils round := by
  rw [not_isEmpty_iff, flush_iff_tasks utils flusher
    (fun flushed => Exists fun trace => trace ∈ flushed.failed)
    (fun ⟨_, member⟩ => List.not_mem_nil member)]
  · simp only [failed_sendTraces_iff, tasks, Reports]
    cases round.getApiKey with
    | none => simp
    | some => simp [sendTraces]
  · intro parts
    simpa only [and_true] using exists_concat
      (fun (flushed : Flushed (SendData Chunk)) trace => trace ∈ flushed.failed)
      (fun _ => mem_failed_concat) (fun _ => True)

/-- When no element fails, what is not given up is taken. -/
theorem acceptedAt_iff_keepsAt (quiet : ¬ flusher.Reports utils round) {apiKey : String}
    (key : round.getApiKey = some apiKey) {endpoint : Endpoint} {chunk : Chunk} :
    AcceptedAt (flusher.flush utils round none) endpoint chunk <->
      flusher.KeepsAt utils round apiKey endpoint chunk := by
  have clean : forall task, task ∈ flusher.fresh round apiKey -> task.1 ≠ [] ->
      ¬ Stops utils (round.result task.2) task.1 :=
    fun task made nonempty stops => quiet ⟨apiKey, key, task, made, nonempty, stops⟩
  rw [acceptedAt_flush]
  constructor
  · rintro ⟨task, member, taken⟩
    rcases (acceptedAt_sendTraces utils).mp taken with ⟨trace, ⟨before, delivered⟩, carries⟩
    have inside := List.takeWhile_subset _ before
    have listed := (mem_addressed_coalesce utils).mp (mem_addressed.mpr ⟨trace, inside, carries⟩)
    rcases mem_fresh_of_tasks member listed with ⟨sameKey, resolved, made⟩
    cases key.symm.trans resolved
    exact ⟨task, made, trace, ⟨inside, by rw [delivered]; nofun⟩, carries⟩
  · rintro ⟨task, made, trace, ⟨inside, heard⟩, carries⟩
    have nonempty : task.1 ≠ [] := by
      intro none
      rw [none] at inside
      exact not_carries_coalesce_nil utils inside carries
    refine ⟨task, ?_, (acceptedAt_sendTraces_iff utils (clean task made nonempty)).mpr
      ⟨trace, ⟨inside, ?_⟩, carries⟩⟩
    · rw [tasks, key]
      exact List.mem_cons_of_mem _ made
    · cases ended : round.result task.2 trace with
      | delivered => rfl
      | answered => exact absurd ended heard
      | error => exact absurd ⟨trace, inside, ended⟩ (clean task made nonempty)

theorem delivers_iff (quiet : ¬ flusher.Reports utils round) :
    flusher.Delivers utils round <-> flusher.LosesNothing utils round := by
  refine forall_congr' (fun _ => imp_congr_right (fun _ => forall_congr' (fun _ =>
    imp_congr_right (fun _ => forall_congr' (fun _ => imp_congr_right (fun _ =>
      exists_congr (fun apiKey => and_congr_right (fun key => ?_))))))))
  exact and_congr (acceptedAt_iff_keepsAt quiet key)
    (forall_congr' (fun _ => imp_congr_right (fun _ => acceptedAt_iff_keepsAt quiet key)))

end TraceFlusher

/-! ## Stats -/

namespace StatsFlusher

variable {Stat : Type} (round : StatsRound Stat) (forceFlush : Bool)

/-- The attempts of a batch are exhausted. -/
def Reports : Prop :=
  Exists fun batch => batch ∈ round.getBatches forceFlush ∧
    outcome round batch = .exhausted

/-- The intake took every batch. -/
def Delivers : Prop :=
  forall batch, batch ∈ round.getBatches forceFlush -> batch ≠ [] ->
    (flush round forceFlush none).Accepted batch

/-- Every batch has its key and is serialized, and none fails permanently. -/
def LosesNothing : Prop :=
  forall batch, batch ∈ round.getBatches forceFlush -> batch ≠ [] -> ¬ (outcome round batch).Silent

variable {round forceFlush}

theorem hands_back_iff :
    (!(flush round forceFlush none).failed.flatten.isEmpty) = true <-> Reports round forceFlush := by
  rw [not_isEmpty_iff]
  constructor
  · rintro ⟨stat, member⟩
    rcases List.mem_flatten.mp member with ⟨batch, failed, _⟩
    exact ⟨batch, mem_failed_flush.mp failed⟩
  · rintro ⟨batch, taken, ended⟩
    have nonempty : batch ≠ [] := by
      rintro rfl
      cases ended
    rcases List.exists_mem_of_ne_nil batch nonempty with ⟨stat, listed⟩
    exact ⟨stat, List.mem_flatten.mpr ⟨batch, mem_failed_flush.mpr ⟨taken, ended⟩, listed⟩⟩

theorem delivers_iff (quiet : ¬ Reports round forceFlush) :
    Delivers round forceFlush <-> LosesNothing round forceFlush := by
  refine forall_congr' (fun batch => imp_congr_right (fun taken => imp_congr_right (fun _ => ?_)))
  rw [<- Outcome.accepted_iff_not_silent (fun ended => quiet ⟨batch, taken, ended⟩)]
  exact ⟨outcome_of_accepted_flush, fun accepted => accepted_flush taken accepted none⟩

end StatsFlusher

/-! ## Proxied requests -/

namespace ProxyFlusher

variable {Body : Type} (round : ProxyRound Body)

/-- The attempts of a request are exhausted. -/
def Reports : Prop :=
  Exists fun request => request ∈ requests round ∧
    send round request = .exhausted

/-- Every request was accepted. -/
def Delivers : Prop :=
  forall request, request ∈ round.queue ->
    Exists fun apiKey => round.getApiKey = some apiKey ∧
      (flush round none).Accepted (createRequest round apiKey request)

/-- The key resolves, and every request can be cloned. -/
def LosesNothing : Prop :=
  forall request, request ∈ round.queue ->
    Exists fun apiKey => round.getApiKey = some apiKey ∧
      ¬ (send round (createRequest round apiKey request)).Silent

variable {round}

theorem hands_back_iff : (!(flush round none).failed.isEmpty) = true <-> Reports round := by
  rw [not_isEmpty_iff]
  exact exists_congr (fun _ => mem_failed_flush)

theorem delivers_iff (quiet : ¬ Reports round) : Delivers round <-> LosesNothing round := by
  refine forall_congr' (fun request => imp_congr_right (fun queued =>
    exists_congr (fun apiKey => and_congr_right (fun key => ?_))))
  have made : createRequest round apiKey request ∈ requests round := by
    rw [requests, key]
    exact List.mem_map_of_mem queued
  rw [accepted_flush, and_iff_right made]
  exact Outcome.accepted_iff_not_silent (fun ended => quiet ⟨_, made, ended⟩)

end ProxyFlusher

/-! ## The service -/

namespace FlushingService

variable {Chunk Stat Body Series Sketch : Type}
variable (service : FlushingService Chunk Stat Body Series Sketch) (utils : TraceUtils Chunk)
variable (round : Round Chunk Stat Body Series Sketch) (forceStats : Bool)

/-- A flusher hands something back, or the metrics aggregator is gone. -/
def Reports : Prop :=
  service.logsFlusher.Reports round.logs ∨ round.metrics.Reports service.metricsFlushers ∨
    service.traceFlusher.Reports utils round.traces ∨ StatsFlusher.Reports round.stats forceStats ∨
      ProxyFlusher.Reports round.proxy

/-- All that the flush took out of an aggregator was accepted by every endpoint. -/
structure Delivers : Prop where
  logs : service.logsFlusher.Delivers round.logs
  metrics : round.metrics.Delivers service.metricsFlushers
  traces : service.traceFlusher.Delivers utils round.traces
  stats : StatsFlusher.Delivers round.stats forceStats
  proxy : ProxyFlusher.Delivers round.proxy

/-- Nothing is dropped without being handed back. -/
structure LosesNothing : Prop where
  logs : service.logsFlusher.LosesNothing round.logs
  metrics : round.metrics.LosesNothing service.metricsFlushers
  traces : service.traceFlusher.LosesNothing utils round.traces
  stats : StatsFlusher.LosesNothing round.stats forceStats
  proxy : ProxyFlusher.LosesNothing round.proxy

variable {service utils round forceStats}

/-- Some name is listed exactly when one of the flags is set. -/
theorem not_isEmpty_names (undelivered : List (String × Bool)) :
    (!(undelivered.filterMap (fun entry => if entry.2 then some entry.1 else none)).isEmpty) =
      undelivered.any Prod.snd := by
  induction undelivered with
  | nil => rfl
  | cons entry _ ih =>
    rcases entry with ⟨name, flag⟩
    cases flag with
    | true => rfl
    | false => exact ih

theorem flushBlockingInner_eq_true_iff :
    service.flushBlockingInner utils round forceStats = true <->
      service.Reports utils round forceStats := by
  rw [flushBlockingInner, not_isEmpty_names]
  simp only [List.any_cons, List.any_nil, Bool.or_false]
  rw [Bool.or_eq_true]
  refine or_congr LogsFlusher.hands_back_iff ?_
  rw [Bool.or_eq_true]
  refine or_congr MetricsRound.hands_back_iff ?_
  rw [Bool.or_eq_true]
  refine or_congr TraceFlusher.hands_back_iff ?_
  rw [Bool.or_eq_true]
  exact or_congr StatsFlusher.hands_back_iff ProxyFlusher.hands_back_iff

theorem delivers_iff (quiet : ¬ service.Reports utils round forceStats) :
    service.Delivers utils round forceStats <-> service.LosesNothing utils round forceStats := by
  simp only [Reports, not_or] at quiet
  rcases quiet with ⟨logs, metrics, traces, stats, proxy⟩
  constructor
  · intro delivers
    exact ⟨(LogsFlusher.delivers_iff logs).mp delivers.logs,
      (MetricsRound.delivers_iff metrics).mp delivers.metrics,
      (TraceFlusher.delivers_iff traces).mp delivers.traces,
      (StatsFlusher.delivers_iff stats).mp delivers.stats,
      (ProxyFlusher.delivers_iff proxy).mp delivers.proxy⟩
  · intro loses
    exact ⟨(LogsFlusher.delivers_iff logs).mpr loses.logs,
      (MetricsRound.delivers_iff metrics).mpr loses.metrics,
      (TraceFlusher.delivers_iff traces).mpr loses.traces,
      (StatsFlusher.delivers_iff stats).mpr loses.stats,
      (ProxyFlusher.delivers_iff proxy).mpr loses.proxy⟩

/-- A result of `false` hides nothing exactly when something else is reported or nothing is
dropped without a word. -/
theorem false_hides_nothing_iff :
    (service.flushBlockingInner utils round forceStats = false ->
        service.Delivers utils round forceStats) <->
      service.Reports utils round forceStats ∨ service.LosesNothing utils round forceStats := by
  rw [<- Bool.not_eq_true, flushBlockingInner_eq_true_iff]
  constructor
  · intro honest
    by_cases reports : service.Reports utils round forceStats
    · exact Or.inl reports
    · exact Or.inr ((delivers_iff reports).mp (honest reports))
  · intro either quiet
    rcases either with reports | loses
    · exact absurd reports quiet
    · exact (delivers_iff quiet).mpr loses

/-- The key of the only endpoint for logs does not resolve. -/
def withoutLogsKey : FlushingService Nat Nat Nat Nat Nat :=
  { idle with
    logsFlusher :=
      { idle.logsFlusher with flushers := [⟨"http://localhost:8080", none⟩] } }

/-- A batch of logs waits in the aggregator. -/
def logsWaiting : Round Nat Nat Nat Nat Nat :=
  { Round.down with logs := { Round.down.logs with getBatches := some [[openBracket, closeBracket]] } }

/-- The batch is drained and sent nowhere, and the flush returns `false`. -/
theorem unresolved_key_hidden :
    withoutLogsKey.flushBlockingInner TraceUtils.separate logsWaiting true = false ∧
      ¬ withoutLogsKey.Delivers TraceUtils.separate logsWaiting true := by
  refine ⟨rfl, ?_⟩
  intro delivers
  rcases delivers.logs _ List.mem_cons_self _ List.mem_cons_self (List.cons_ne_nil _ _) with
    ⟨apiKey, resolved, _⟩
  cases resolved

end FlushingService

end Flushing
end Bottlecap
