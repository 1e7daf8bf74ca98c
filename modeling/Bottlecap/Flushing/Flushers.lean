import Bottlecap.Foundations.Sending
import Bottlecap.Foundations.Slices
import Bottlecap.Logs.HeldLogs

namespace Bottlecap
namespace Flushing

open Foundations Logs

/-!
# The flushers

`Flusher` and `LogsFlusher` (`logs/flusher.rs`), `TraceFlusher`
(`traces/trace_flusher.rs`), `StatsFlusher` (`traces/stats_flusher.rs`) and the flusher of
proxied requests (`traces/proxy_flusher.rs`).  What a call of `flush` meets outside of the
flusher is its round: the answer of the key factory, the content of the aggregator, the
replies of the network, and the order in which tasks are joined.  The source's `None` is
the empty list of failures: no caller tells it from `Some` of an empty vector.
-/

/-- The end of one attempt: a response, or an error or a timeout of the transport. -/
inductive Reply where
  | status (code : Nat)
  | failed
  deriving DecidableEq

def flushRetryCount : Nat := 3

def isSuccess (code : Nat) : Bool := decide (200 <= code ∧ code < 300)

def isServerError (code : Nat) : Bool := decide (500 <= code ∧ code < 600)

/-- A `reqwest::RequestBuilder`. -/
structure Request (Body : Type) where
  url : String
  apiKey : String
  body : Body
  /-- The builder holds a request and no error, so `try_clone` gives a copy. -/
  clonable : Bool
  deriving DecidableEq

/-- The loop that the flushers of logs and of proxied requests share.  A request that
cannot be cloned ends it with an error that is not handed back. -/
def sendRequest {Body : Type} (settle : Reply -> Option Outcome) (replies : Nat -> Reply)
    (request : Request Body) : Outcome :=
  if request.clonable then settled settle flushRetryCount replies else .unsent

theorem clonable_of_exhausted {Body : Type} {settle : Reply -> Option Outcome}
    {replies : Nat -> Reply} {request : Request Body}
    (exhausted : sendRequest settle replies request = .exhausted) :
    request.clonable = true := by
  rw [sendRequest] at exhausted
  cases decided : request.clonable with
  | true => rfl
  | false =>
    rw [decided] at exhausted
    cases exhausted

/-- Whether a request is put on the wire depends on its builder only. -/
theorem sendRequest_ne_unsent {Body : Type} {settle : Reply -> Option Outcome}
    (never : forall reply, settle reply ≠ some .unsent) (replies : Nat -> Reply)
    {request : Request Body} (clonable : request.clonable = true) :
    sendRequest settle replies request ≠ .unsent := by
  rw [sendRequest, if_pos clonable]
  exact settled_ne_unsent never flushRetryCount replies

/-! ## Logs -/

structure LogsConfig where
  logsConfigUseCompression : Bool
  observabilityPipelinesWorkerLogsEnabled : Bool
  deriving DecidableEq

/-- `Flusher`: one endpoint that logs are sent to. -/
structure Flusher where
  endpoint : String
  /-- The answer of `get_api_key`. -/
  apiKey : Option String
  deriving DecidableEq

structure LogsRound where
  /-- `none` when the aggregator's service is gone. -/
  getBatches : Option (List Bytes)
  /-- The client builds a request for the URL. -/
  builds : String -> Bool
  replies : Request Bytes -> Nat -> Reply
  joined : IterationOrder (Request Bytes)

/-- A denied request is not sent again, and `send` reports it like an accepted one. -/
def Flusher.settle : Reply -> Option Outcome
  | .status code =>
    if code = 403 then some .refused
    else if isSuccess code then some .accepted
    else none
  | .failed => none

/-- No other outcome comes of a reply. -/
theorem Flusher.settle_ne {outcome : Outcome}
    (other : outcome ≠ .accepted ∧ outcome ≠ .refused) (reply : Reply) :
    Flusher.settle reply ≠ some outcome := by
  intro ends
  cases reply with
  | failed => cases ends
  | status =>
    rw [Flusher.settle] at ends
    split_ifs at ends
    · exact other.2 (Option.some.inj ends).symm
    · exact other.1 (Option.some.inj ends).symm

def Flusher.send (round : LogsRound) (request : Request Bytes) : Outcome :=
  sendRequest Flusher.settle (round.replies request) request

def Flusher.createRequest (flusher : Flusher) (config : LogsConfig) (round : LogsRound)
    (data : Bytes) (apiKey : String) : Request Bytes :=
  let url :=
    if config.observabilityPipelinesWorkerLogsEnabled then flusher.endpoint
    else flusher.endpoint ++ "/api/v2/logs"
  ⟨url, apiKey, data, round.builds url⟩

/-- The requests for some batches. -/
def Flusher.requests (flusher : Flusher) (config : LogsConfig) (round : LogsRound)
    (apiKey : String) (batches : List Bytes) : List (Request Bytes) :=
  (batches.filter (fun batch => !batch.isEmpty)).map
    (fun batch => flusher.createRequest config round batch apiKey)

def Flusher.flush (flusher : Flusher) (config : LogsConfig) (round : LogsRound)
    (batches : Option (List Bytes)) : Flushed (Request Bytes) :=
  match flusher.apiKey with
  | none => Flushed.nothing
  | some apiKey =>
    sendAll (Flusher.send round)
      (round.joined.arrange (flusher.requests config round apiKey (batches.getD [])))

structure LogsFlusher where
  config : LogsConfig
  flushers : List Flusher
  /-- The `zstd` encoder, `none` when it fails.  What it writes starts with a frame header. -/
  encode : Bytes -> Option Bytes
  encode_ne_nil : forall data compressed, encode data = some compressed -> compressed ≠ []

def LogsFlusher.compress (flusher : LogsFlusher) (data : Bytes) : Bytes :=
  if !flusher.config.logsConfigUseCompression
      || flusher.config.observabilityPipelinesWorkerLogsEnabled then data
  else
    match flusher.encode data with
    | some compressedData => compressedData
    | none => data

def LogsFlusher.flush (flusher : LogsFlusher) (round : LogsRound)
    (retryRequest : Option (Request Bytes)) : Flushed (Request Bytes) :=
  match retryRequest with
  | some request =>
    if request.clonable then sendAll (Flusher.send round) [request] else Flushed.nothing
  | none =>
    let logsBatches := (round.getBatches.getD []).map flusher.compress
    Flushed.concat (flusher.flushers.map
      (fun endpoint => endpoint.flush flusher.config round (some logsBatches)))

theorem compress_ne_nil (flusher : LogsFlusher) {data : Bytes} (nonempty : data ≠ []) :
    flusher.compress data ≠ [] := by
  rw [LogsFlusher.compress]
  split
  · exact nonempty
  · cases encoded : flusher.encode data with
    | none => exact nonempty
    | some compressed => exact flusher.encode_ne_nil data compressed encoded

/-- The requests that a flush makes of what the aggregator holds, those of the endpoints
whose key resolves. -/
def LogsFlusher.requests (flusher : LogsFlusher) (round : LogsRound) : List (Request Bytes) :=
  flusher.flushers.flatMap (fun endpoint =>
    match endpoint.apiKey with
    | none => []
    | some apiKey =>
      endpoint.requests flusher.config round apiKey
        ((round.getBatches.getD []).map flusher.compress))

section Logs

variable {flusher : LogsFlusher} {round : LogsRound} {request : Request Bytes}

theorem mem_requests :
    request ∈ flusher.requests round <->
      Exists fun endpoint => endpoint ∈ flusher.flushers ∧
        Exists fun apiKey => endpoint.apiKey = some apiKey ∧
          Exists fun batch => batch ∈ round.getBatches.getD [] ∧
            flusher.compress batch ≠ [] ∧
              endpoint.createRequest flusher.config round (flusher.compress batch) apiKey =
                request := by
  rw [LogsFlusher.requests, List.mem_flatMap]
  refine exists_congr (fun endpoint => and_congr_right (fun _ => ?_))
  cases endpoint.apiKey with
  | none => simp
  | some => simp [Flusher.requests, and_assoc]

/-- A property of requests that concatenation distributes over is, for a flush of the
aggregator, what `sendAll` makes of it over the requests. -/
theorem flush_iff_requests (property : Flushed (Request Bytes) -> Prop) (ends : Outcome -> Prop)
    (absent : ¬ property Flushed.nothing)
    (concat : forall parts, property (Flushed.concat parts) <->
      Exists fun part => part ∈ parts ∧ property part)
    (sends : forall requests, property (sendAll (Flusher.send round) requests) <->
      request ∈ requests ∧ ends (Flusher.send round request)) :
    property (flusher.flush round none) <->
      request ∈ flusher.requests round ∧ ends (Flusher.send round request) := by
  rw [LogsFlusher.flush, concat, LogsFlusher.requests, List.mem_flatMap]
  constructor
  · rintro ⟨part, listed, holds⟩
    rcases List.mem_map.mp listed with ⟨endpoint, member, rfl⟩
    rw [Flusher.flush] at holds
    cases key : endpoint.apiKey with
    | none =>
      rw [key] at holds
      exact absurd holds absent
    | some =>
      rw [key] at holds
      rcases (sends _).mp holds with ⟨arranged, ended⟩
      refine ⟨⟨endpoint, member, ?_⟩, ended⟩
      rw [key]
      exact (round.joined.perm _).mem_iff.mp arranged
  · rintro ⟨⟨endpoint, member, made⟩, ended⟩
    refine ⟨_, List.mem_map_of_mem member, ?_⟩
    rw [Flusher.flush]
    cases key : endpoint.apiKey with
    | none =>
      rw [key] at made
      exact absurd made List.not_mem_nil
    | some =>
      rw [key] at made
      exact (sends _).mpr ⟨(round.joined.perm _).mem_iff.mpr made, ended⟩

theorem mem_failed_logs :
    request ∈ (flusher.flush round none).failed <->
      request ∈ flusher.requests round ∧ Flusher.send round request = .exhausted :=
  flush_iff_requests (fun flushed => request ∈ flushed.failed) (fun outcome => outcome = .exhausted)
    List.not_mem_nil (fun _ => mem_failed_concat) (fun _ => mem_failed_sendAll)

theorem accepted_logs :
    (flusher.flush round none).Accepted request <->
      request ∈ flusher.requests round ∧ Flusher.send round request = .accepted :=
  flush_iff_requests (fun flushed => flushed.Accepted request) (fun outcome => outcome = .accepted)
    (not_accepted_nothing request) (fun _ => accepted_concat) (fun _ => accepted_sendAll)

end Logs

/-! ## Traces -/

structure Endpoint where
  url : String
  apiKey : Option String
  deriving DecidableEq

/-- Trace chunks with the endpoint they go to. -/
structure SendData (Chunk : Type) where
  target : Endpoint
  payloads : List Chunk
  deriving DecidableEq

structure SendDataBuilder (Chunk : Type) where
  target : Endpoint
  payloads : List Chunk

def SendDataBuilder.build {Chunk : Type} (builder : SendDataBuilder Chunk) (apiKey : String) :
    SendData Chunk :=
  ⟨{ builder.target with apiKey := some apiKey }, builder.payloads⟩

/-- Every chunk with its endpoint. -/
def addressed {Chunk : Type} (traces : List (SendData Chunk)) : List (Endpoint × Chunk) :=
  traces.flatMap (fun trace => trace.payloads.map (fun chunk => (trace.target, chunk)))

/-- `trace_utils::coalesce_send_data` merges what goes to one endpoint and loses nothing. -/
structure TraceUtils (Chunk : Type) where
  coalesceSendData : List (SendData Chunk) -> List (SendData Chunk)
  preserves : forall traces, (addressed (coalesceSendData traces)).Perm (addressed traces)

structure TraceFlusher where
  additionalEndpoints : List Endpoint

/-- How `SendData::send` ends.  When every attempt has met an error status the last response
is returned, as an `Ok` like that of a success. -/
inductive SendResult where
  | delivered
  | answered
  | error
  deriving DecidableEq

structure TraceRound (Chunk : Type) where
  getApiKey : Option String
  /-- `none` when the aggregator's service is gone. -/
  getBatches : Option (List (List (SendDataBuilder Chunk)))
  /-- How the sends of a task end.  The tasks of a flush are numbered, and the retried traces
  are sent by number zero. -/
  result : Nat -> SendData Chunk -> SendResult
  joined : IterationOrder (List (SendData Chunk) × Nat)

section Traces

variable {Chunk : Type} (utils : TraceUtils Chunk)

def sendTraces (result : SendData Chunk -> SendResult) (traces : List (SendData Chunk)) :
    Flushed (SendData Chunk) :=
  if traces.isEmpty then Flushed.nothing
  else
    sendInOrder (fun trace => decide (result trace = .error))
      (fun trace => decide (result trace = .delivered)) (utils.coalesceSendData traces)

/-- The vectors that `send_traces` is called with for one batch: a copy of the batch for
each additional endpoint, and the batch itself. -/
def TraceFlusher.vectors (flusher : TraceFlusher) (apiKey : String)
    (traceBuilders : List (SendDataBuilder Chunk)) : List (List (SendData Chunk)) :=
  let traces := traceBuilders.map (fun builder => builder.build apiKey)
  flusher.additionalEndpoints.map
      (fun endpoint => traces.map (fun trace => ⟨endpoint, trace.payloads⟩)) ++ [traces]

/-- Failed traces go first.  When they are delivered, or when there are none, the
aggregator is drained as well. -/
def TraceFlusher.flush (flusher : TraceFlusher) (round : TraceRound Chunk)
    (failedTraces : Option (List (SendData Chunk))) : Flushed (SendData Chunk) :=
  match round.getApiKey with
  | none => Flushed.nothing
  | some apiKey =>
    let retried := sendTraces utils (round.result 0) (failedTraces.getD [])
    if !retried.failed.isEmpty then retried
    else
      match round.getBatches with
      | none => retried
      | some allBatches =>
        let batchTasks :=
          round.joined.arrange ((allBatches.flatMap (flusher.vectors apiKey)).zipIdx 1)
        Flushed.concat (retried :: batchTasks.map (fun task =>
          sendTraces utils (round.result task.2) task.1))

end Traces

/-! ## Stats -/

inductive Classification where
  | success
  | retriable
  | permanent
  deriving DecidableEq

def classifyStatus (status : Nat) : Classification :=
  if isSuccess status then .success
  else if status = 408 ∨ status = 425 ∨ status = 429 ∨ isServerError status then
    .retriable
  else .permanent

structure StatsRound (Stat : Type) where
  /-- Every `send` asks for the key again. -/
  getApiKey : List Stat -> Option String
  /-- The batches that `get_batch(force_flush)` gives until one is empty. -/
  getBatches : Bool -> List (List Stat)
  serializes : List Stat -> Bool
  /-- A request with the key in its header is built. -/
  builds : String -> Bool
  replies : List Stat -> Nat -> Reply

namespace StatsFlusher

variable {Stat : Type}

def settle : Reply -> Option Outcome
  | .status code =>
    match classifyStatus code with
    | .success => some .accepted
    | .retriable => none
    | .permanent => some .refused
  | .failed => none

theorem settle_ne_unsent (reply : Reply) : settle reply ≠ some .unsent := by
  cases reply with
  | failed => exact nofun
  | status code =>
    rw [settle]
    cases classifyStatus code <;> exact nofun

/-- A request that is not built is a permanent failure before the first attempt. -/
def sendWithRetry (round : StatsRound Stat) (stats : List Stat) (apiKey : String) : Outcome :=
  if round.builds apiKey then settled settle flushRetryCount (round.replies stats)
  else .unsent

/-- `send` up to its result: of the early returns none hands the stats back. -/
def outcome (round : StatsRound Stat) (stats : List Stat) : Outcome :=
  if stats.isEmpty then .unsent
  else
    match round.getApiKey stats with
    | none => .unsent
    | some apiKey =>
      if round.serializes stats then sendWithRetry round stats apiKey else .unsent

def send (round : StatsRound Stat) (stats : List Stat) : Flushed (List Stat) :=
  sendAll (outcome round) [stats]

/-- The source appends the failed batches to one vector. -/
def flush (round : StatsRound Stat) (forceFlush : Bool) (failedStats : Option (List Stat)) :
    Flushed (List Stat) :=
  Flushed.concat (send round (failedStats.getD []) ::
    (round.getBatches forceFlush).map (send round))

section

variable {round : StatsRound Stat} {forceFlush : Bool} {batch : List Stat}

/-- A flush without retries sends the batches of the aggregator. -/
theorem mem_failed_flush :
    batch ∈ (flush round forceFlush none).failed <->
      batch ∈ round.getBatches forceFlush ∧ outcome round batch = .exhausted := by
  rw [flush, mem_failed_concat]
  constructor
  · rintro ⟨part, listed, failed⟩
    rcases List.mem_cons.mp listed with rfl | later
    · rcases mem_failed_sendAll.mp failed with ⟨same, ended⟩
      cases List.mem_singleton.mp same
      cases ended
    · rcases List.mem_map.mp later with ⟨sent, taken, rfl⟩
      rcases mem_failed_sendAll.mp failed with ⟨same, ended⟩
      cases List.mem_singleton.mp same
      exact ⟨taken, ended⟩
  · rintro ⟨taken, ended⟩
    exact ⟨send round batch, List.mem_cons_of_mem _ (List.mem_map_of_mem taken),
      mem_failed_sendAll.mpr ⟨List.mem_cons_self, ended⟩⟩

theorem accepted_flush (taken : batch ∈ round.getBatches forceFlush)
    (accepted : outcome round batch = .accepted) (failedStats : Option (List Stat)) :
    (flush round forceFlush failedStats).Accepted batch :=
  accepted_concat.mpr ⟨send round batch, List.mem_cons_of_mem _ (List.mem_map_of_mem taken),
    accepted_sendAll.mpr ⟨List.mem_cons_self, accepted⟩⟩

theorem outcome_of_accepted_flush {failedStats : Option (List Stat)}
    (accepted : (flush round forceFlush failedStats).Accepted batch) :
    outcome round batch = .accepted := by
  rcases accepted_concat.mp accepted with ⟨part, listed, taken⟩
  rcases List.mem_cons.mp listed with rfl | later
  · rcases accepted_sendAll.mp taken with ⟨same, ended⟩
    exact ended
  · rcases List.mem_map.mp later with ⟨sent, _, rfl⟩
    exact (accepted_sendAll.mp taken).2

end

end StatsFlusher

/-! ## Proxied requests -/

structure ProxyRequest (Body : Type) where
  /-- The headers and the body. -/
  body : Body
  targetUrl : String

structure ProxyRound (Body : Type) where
  getApiKey : Option String
  /-- What `get_batch` takes. -/
  queue : List (ProxyRequest Body)
  builds : String -> Bool
  replies : Request Body -> Nat -> Reply
  joined : IterationOrder (Request Body)

namespace ProxyFlusher

variable {Body : Type}

def settle : Reply -> Option Outcome
  | .status code => if code = 202 ∨ code = 200 then some .accepted else none
  | .failed => none

theorem settle_ne {outcome : Outcome} (other : outcome ≠ .accepted) (reply : Reply) :
    settle reply ≠ some outcome := by
  intro ends
  cases reply with
  | failed => cases ends
  | status =>
    rw [settle] at ends
    split_ifs at ends
    exact other (Option.some.inj ends).symm

def send (round : ProxyRound Body) (request : Request Body) : Outcome :=
  sendRequest settle (round.replies request) request

def createRequest (round : ProxyRound Body) (apiKey : String) (request : ProxyRequest Body) :
    Request Body :=
  ⟨request.targetUrl, apiKey, request.body, round.builds request.targetUrl⟩

/-- The aggregator is drained whenever there is nothing to retry, an empty vector of
retries included. -/
def flush (round : ProxyRound Body) (retryRequests : Option (List (Request Body))) :
    Flushed (Request Body) :=
  match round.getApiKey with
  | none => Flushed.nothing
  | some apiKey =>
    let retries := retryRequests.getD []
    let requests :=
      if !retries.isEmpty then retries else round.queue.map (createRequest round apiKey)
    sendAll (send round) (round.joined.arrange requests)

/-- The requests that a flush makes of what the aggregator holds. -/
def requests (round : ProxyRound Body) : List (Request Body) :=
  match round.getApiKey with
  | none => []
  | some apiKey => round.queue.map (createRequest round apiKey)

section

variable {round : ProxyRound Body} {request : Request Body}

/-- With nothing to retry a flush sends the requests of the aggregator. -/
theorem flush_iff_requests (property : Flushed (Request Body) -> Prop) (ends : Outcome -> Prop)
    (absent : ¬ property Flushed.nothing)
    (sends : forall requests, property (sendAll (send round) requests) <->
      request ∈ requests ∧ ends (send round request)) :
    property (flush round none) <-> request ∈ requests round ∧ ends (send round request) := by
  rw [flush, requests]
  cases round.getApiKey with
  | none => exact iff_of_false absent (fun both => List.not_mem_nil both.1)
  | some => exact (sends _).trans (and_congr_left' (round.joined.perm _).mem_iff)

theorem mem_failed_flush :
    request ∈ (flush round none).failed <->
      request ∈ requests round ∧ send round request = .exhausted :=
  flush_iff_requests (fun flushed => request ∈ flushed.failed)
    (fun outcome => outcome = .exhausted) List.not_mem_nil (fun _ => mem_failed_sendAll)

theorem accepted_flush :
    (flush round none).Accepted request <->
      request ∈ requests round ∧ send round request = .accepted :=
  flush_iff_requests (fun flushed => flushed.Accepted request)
    (fun outcome => outcome = .accepted) (not_accepted_nothing request)
    (fun _ => accepted_sendAll)

end

end ProxyFlusher

end Flushing
end Bottlecap
