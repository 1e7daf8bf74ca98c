import Bottlecap.Flushing.Flushers

namespace Bottlecap
namespace Flushing

open Foundations Logs

/-!
# Redriven traces

`send_traces` delivers the elements of a coalesced vector one by one and hands back the
whole vector when one of them fails.  What the redrive of a flush sends can therefore be
read off the vectors of that flush: the chunks of a vector that stopped.  As the extension
makes them, a vector holds one element and no two have an endpoint and a chunk in common.
-/

section Chunks

variable {Chunk : Type}

def SendData.Carries (trace : SendData Chunk) (endpoint : Endpoint) (chunk : Chunk) : Prop :=
  trace.target = endpoint ∧ chunk ∈ trace.payloads

theorem mem_addressed {traces : List (SendData Chunk)} {endpoint : Endpoint} {chunk : Chunk} :
    (endpoint, chunk) ∈ addressed traces <->
      Exists fun trace => trace ∈ traces ∧ trace.Carries endpoint chunk := by
  simp only [addressed, List.mem_flatMap, List.mem_map, Prod.mk.injEq]
  constructor
  · rintro ⟨trace, member, listed, held, target, rfl⟩
    exact ⟨trace, member, target, held⟩
  · rintro ⟨trace, member, target, held⟩
    exact ⟨trace, member, chunk, held, target, rfl⟩

/-- The endpoint took the chunk. -/
def AcceptedAt (flushed : Flushed (SendData Chunk)) (endpoint : Endpoint) (chunk : Chunk) : Prop :=
  Exists fun trace => flushed.Accepted trace ∧ trace.Carries endpoint chunk

/-- The chunk was sent to the endpoint. -/
def SentAt (flushed : Flushed (SendData Chunk)) (endpoint : Endpoint) (chunk : Chunk) : Prop :=
  Exists fun trace => flushed.Attempted trace ∧ trace.Carries endpoint chunk

/-- The chunk is handed back to be sent to the endpoint again. -/
def ReturnedAt (flushed : Flushed (SendData Chunk)) (endpoint : Endpoint) (chunk : Chunk) : Prop :=
  (endpoint, chunk) ∈ addressed flushed.failed

variable {parts : List (Flushed (SendData Chunk))} {endpoint : Endpoint} {chunk : Chunk}

theorem acceptedAt_concat :
    AcceptedAt (Flushed.concat parts) endpoint chunk <->
      Exists fun part => part ∈ parts ∧ AcceptedAt part endpoint chunk :=
  exists_concat Flushed.Accepted (fun _ => accepted_concat)
    (fun trace : SendData Chunk => trace.Carries endpoint chunk)

theorem sentAt_concat :
    SentAt (Flushed.concat parts) endpoint chunk <->
      Exists fun part => part ∈ parts ∧ SentAt part endpoint chunk :=
  exists_concat Flushed.Attempted (fun _ => attempted_concat)
    (fun trace : SendData Chunk => trace.Carries endpoint chunk)

theorem returnedAt_concat :
    ReturnedAt (Flushed.concat parts) endpoint chunk <->
      Exists fun part => part ∈ parts ∧ ReturnedAt part endpoint chunk := by
  simp only [ReturnedAt, mem_addressed]
  exact exists_concat (fun flushed trace => trace ∈ flushed.failed) (fun _ => mem_failed_concat)
    (fun trace : SendData Chunk => trace.Carries endpoint chunk)

end Chunks

section Vectors

variable {Chunk : Type} (utils : TraceUtils Chunk) (flusher : TraceFlusher)
variable {round : TraceRound Chunk} {traces : List (SendData Chunk)}
variable {result : SendData Chunk -> SendResult} {endpoint : Endpoint} {chunk : Chunk}

theorem mem_addressed_coalesce :
    (endpoint, chunk) ∈ addressed (utils.coalesceSendData traces) <->
      (endpoint, chunk) ∈ addressed traces :=
  (utils.preserves traces).mem_iff

theorem not_carries_coalesce_nil {trace : SendData Chunk}
    (member : trace ∈ utils.coalesceSendData []) : ¬ trace.Carries endpoint chunk := by
  intro carries
  have listed := (mem_addressed_coalesce utils).mp (mem_addressed.mpr ⟨trace, member, carries⟩)
  exact List.not_mem_nil listed

/-- An element of the coalesced vector fails. -/
def Stops (result : SendData Chunk -> SendResult) (traces : List (SendData Chunk)) : Prop :=
  Exists fun trace => trace ∈ utils.coalesceSendData traces ∧
    result trace = .error

theorem any_error_iff :
    (utils.coalesceSendData traces).any (fun trace => decide (result trace = .error)) =
      true <-> Stops utils result traces := by
  rw [List.any_eq_true]
  simp only [decide_eq_true_eq]
  exact Iff.rfl

/-- A sent vector: what its endpoint took stands before the first element that failed. -/
theorem acceptedAt_sendTraces :
    AcceptedAt (sendTraces utils result traces) endpoint chunk <->
      Exists fun trace => (trace ∈ (utils.coalesceSendData traces).takeWhile
            (fun trace => !decide (result trace = .error)) ∧
          result trace = .delivered) ∧ trace.Carries endpoint chunk := by
  cases traces with
  | nil =>
    constructor
    · rintro ⟨trace, accepted, _⟩
      exact absurd accepted (not_accepted_nothing trace)
    · rintro ⟨trace, ⟨member, _⟩, carries⟩
      exact absurd carries
        (not_carries_coalesce_nil utils (List.takeWhile_subset _ member))
  | cons =>
    refine exists_congr (fun trace => and_congr_left' ?_)
    rw [<- @decide_eq_true_eq (result trace = SendResult.delivered)]
    exact accepted_sendInOrder

/-- Of a vector without a failure the delivered elements are taken. -/
theorem acceptedAt_sendTraces_iff (clean : ¬ Stops utils result traces) :
    AcceptedAt (sendTraces utils result traces) endpoint chunk <->
      Exists fun trace => (trace ∈ utils.coalesceSendData traces ∧
        result trace = .delivered) ∧ trace.Carries endpoint chunk := by
  have all : (utils.coalesceSendData traces).takeWhile
      (fun trace => !decide (result trace = .error)) = utils.coalesceSendData traces := by
    refine List.takeWhile_eq_self_iff.mpr (fun trace member => ?_)
    rw [Bool.not_eq_true', decide_eq_false_iff_not]
    exact fun fails => clean ⟨trace, member, fails⟩
  rw [acceptedAt_sendTraces, all]

/-- A sent vector is handed back as a whole or not at all. -/
theorem returnedAt_sendTraces :
    ReturnedAt (sendTraces utils result traces) endpoint chunk <->
      Stops utils result traces ∧ (endpoint, chunk) ∈ addressed traces := by
  cases traces with
  | nil => simp [ReturnedAt, sendTraces, addressed]
  | cons first rest =>
    rw [<- mem_addressed_coalesce utils, <- any_error_iff utils]
    simp only [ReturnedAt, sendTraces, List.isEmpty_cons, Bool.false_eq_true, if_false,
      failed_sendInOrder]
    cases (utils.coalesceSendData (first :: rest)).any _ <;> simp [addressed]

theorem sentAt_sendTraces_subset (sent : SentAt (sendTraces utils result traces) endpoint chunk) :
    (endpoint, chunk) ∈ addressed traces := by
  rcases sent with ⟨trace, attempted, carries⟩
  cases traces with
  | nil => exact absurd attempted (not_attempted_nothing trace)
  | cons =>
    have member := mem_of_attempted_sendInOrder attempted
    exact (mem_addressed_coalesce utils).mp (mem_addressed.mpr ⟨trace, member, carries⟩)

/-- When at most its last element fails, all of a vector is sent. -/
theorem sentAt_sendTraces
    (fine : forall trace, trace ∈ (utils.coalesceSendData traces).dropLast ->
      result trace ≠ .error)
    (listed : (endpoint, chunk) ∈ addressed traces) :
    SentAt (sendTraces utils result traces) endpoint chunk := by
  rcases mem_addressed.mp ((mem_addressed_coalesce utils).mpr listed) with ⟨trace, member, carries⟩
  cases traces with
  | nil => exact absurd listed List.not_mem_nil
  | cons =>
    refine ⟨trace, attempted_sendInOrder (fun earlier before => ?_) member, carries⟩
    exact decide_eq_false (fine earlier before)

/-! ## A flush as its tasks -/

/-- The tasks for what the aggregator holds. -/
def TraceFlusher.fresh (round : TraceRound Chunk) (apiKey : String) :
    List (List (SendData Chunk) × Nat) :=
  ((round.getBatches.getD []).flatMap (flusher.vectors apiKey)).zipIdx 1

/-- The tasks of a flush: the failed traces it is given, and behind them what the aggregator
holds unless the failed traces fail again. -/
def TraceFlusher.tasks (round : TraceRound Chunk)
    (failedTraces : Option (List (SendData Chunk))) : List (List (SendData Chunk) × Nat) :=
  match round.getApiKey with
  | none => []
  | some apiKey =>
    (failedTraces.getD [], 0) ::
      if (sendTraces utils (round.result 0) (failedTraces.getD [])).failed.isEmpty then
        flusher.fresh round apiKey
      else []

variable {failedTraces : Option (List (SendData Chunk))}

/-- A property of chunks that concatenation distributes over is, for a flush, the property
for one of its tasks. -/
theorem flush_iff_tasks (property : Flushed (SendData Chunk) -> Prop)
    (absent : ¬ property Flushed.nothing)
    (concat : forall parts, property (Flushed.concat parts) <->
      Exists fun part => part ∈ parts ∧ property part) :
    property (flusher.flush utils round failedTraces) <->
      Exists fun task => task ∈ flusher.tasks utils round failedTraces ∧
          property (sendTraces utils (round.result task.2) task.1) := by
  rw [TraceFlusher.flush, TraceFlusher.tasks]
  cases round.getApiKey with
  | none =>
    refine iff_of_false absent ?_
    rintro ⟨task, member, _⟩
    exact List.not_mem_nil member
  | some =>
    cases decided : (sendTraces utils (round.result 0) (failedTraces.getD [])).failed.isEmpty with
    | false => simp [decided]
    | true =>
      simp only [decided, Bool.not_true, Bool.false_eq_true, if_false, if_true,
        TraceFlusher.fresh]
      cases round.getBatches with
      | none => simp
      | some =>
        simp only [concat, Option.getD_some, List.mem_cons, List.mem_map,
          (round.joined.perm _).mem_iff, or_and_right, exists_or, exists_eq_left,
          exists_exists_and_eq_and]

theorem acceptedAt_flush :
    AcceptedAt (flusher.flush utils round failedTraces) endpoint chunk <->
      Exists fun task => task ∈ flusher.tasks utils round failedTraces ∧
          AcceptedAt (sendTraces utils (round.result task.2) task.1) endpoint chunk :=
  flush_iff_tasks utils flusher (fun flushed => AcceptedAt flushed endpoint chunk)
    (fun ⟨trace, accepted, _⟩ => not_accepted_nothing trace accepted)
    (fun _ => acceptedAt_concat)

theorem sentAt_flush :
    SentAt (flusher.flush utils round failedTraces) endpoint chunk <->
      Exists fun task => task ∈ flusher.tasks utils round failedTraces ∧
          SentAt (sendTraces utils (round.result task.2) task.1) endpoint chunk :=
  flush_iff_tasks utils flusher (fun flushed => SentAt flushed endpoint chunk)
    (fun ⟨trace, attempted, _⟩ => not_attempted_nothing trace attempted)
    (fun _ => sentAt_concat)

theorem returnedAt_flush :
    ReturnedAt (flusher.flush utils round failedTraces) endpoint chunk <->
      Exists fun task => task ∈ flusher.tasks utils round failedTraces ∧
          ReturnedAt (sendTraces utils (round.result task.2) task.1) endpoint chunk :=
  flush_iff_tasks utils flusher (fun flushed => ReturnedAt flushed endpoint chunk)
    List.not_mem_nil (fun _ => returnedAt_concat)

/-- The batch contains the chunk. -/
def InBatch (chunk : Chunk) (builders : List (SendDataBuilder Chunk)) : Prop :=
  Exists fun builder => builder ∈ builders ∧ chunk ∈ builder.payloads

/-- The aggregator holds the chunk. -/
def TraceRound.Holds (round : TraceRound Chunk) (chunk : Chunk) : Prop :=
  Exists fun builders => builders ∈ round.getBatches.getD [] ∧
    InBatch chunk builders

theorem inBatch_of_mem_vectors {apiKey : String} {builders : List (SendDataBuilder Chunk)}
    (made : traces ∈ flusher.vectors apiKey builders)
    (listed : (endpoint, chunk) ∈ addressed traces) : InBatch chunk builders := by
  rcases mem_addressed.mp listed with ⟨trace, inside, carries⟩
  rcases List.mem_append.mp made with additional | primary
  · rcases List.mem_map.mp additional with ⟨other, _, rfl⟩
    rcases List.mem_map.mp inside with ⟨copied, original, rfl⟩
    rcases List.mem_map.mp original with ⟨builder, held, rfl⟩
    exact ⟨builder, held, carries.2⟩
  · rw [List.mem_singleton.mp primary] at inside
    rcases List.mem_map.mp inside with ⟨builder, held, rfl⟩
    exact ⟨builder, held, carries.2⟩

theorem holds_of_mem_fresh {apiKey : String} {task : List (SendData Chunk) × Nat}
    (member : task ∈ flusher.fresh round apiKey) (listed : (endpoint, chunk) ∈ addressed task.1) :
    round.Holds chunk := by
  rcases List.mem_flatMap.mp (List.fst_mem_of_mem_zipIdx member) with ⟨builders, batch, made⟩
  exact ⟨builders, batch, inBatch_of_mem_vectors flusher made listed⟩

/-! ## The redrive -/

/-- What `await_handles` does with the traces that a flush returned. -/
def TraceFlusher.redrive (round : TraceRound Chunk) (retry : List (SendData Chunk)) :
    Flushed (SendData Chunk) :=
  if !retry.isEmpty then flusher.flush utils round (some retry) else Flushed.nothing

variable {retry : List (SendData Chunk)}

theorem sentAt_redrive_cases (sent : SentAt (flusher.redrive utils round retry) endpoint chunk) :
    (endpoint, chunk) ∈ addressed retry ∨ round.Holds chunk := by
  rw [TraceFlusher.redrive] at sent
  cases decided : retry.isEmpty with
  | true =>
    rw [decided] at sent
    rcases sent with ⟨trace, attempted, _⟩
    exact absurd attempted (not_attempted_nothing trace)
  | false =>
    rw [decided] at sent
    rcases (sentAt_flush utils flusher).mp sent with ⟨task, member, sent⟩
    have listed := sentAt_sendTraces_subset utils sent
    rw [TraceFlusher.tasks] at member
    cases key : round.getApiKey with
    | none =>
      rw [key] at member
      exact absurd member List.not_mem_nil
    | some =>
      rw [key] at member
      rcases List.mem_cons.mp member with rfl | later
      · exact Or.inl listed
      · split at later
        · exact Or.inr (holds_of_mem_fresh flusher later listed)
        · exact absurd later List.not_mem_nil

/-- A redrive with a key sends all of the traces, as long as at most the last of their
coalesced vector fails. -/
theorem sentAt_redrive {apiKey : String} (key : round.getApiKey = some apiKey)
    (fine : forall trace, trace ∈ (utils.coalesceSendData retry).dropLast ->
      round.result 0 trace ≠ .error)
    (listed : (endpoint, chunk) ∈ addressed retry) :
    SentAt (flusher.redrive utils round retry) endpoint chunk := by
  have some : retry.isEmpty = false := by
    cases retry with
    | nil => exact absurd listed List.not_mem_nil
    | cons => rfl
  rw [TraceFlusher.redrive, some]
  refine (sentAt_flush utils flusher).mpr ⟨(retry, 0), ?_, sentAt_sendTraces utils fine listed⟩
  rw [TraceFlusher.tasks, key]
  exact List.mem_cons_self

/-- No chunk that an endpoint took in the flush is sent to it again by the redrive of what
the flush returned, whatever the redrive meets.  A chunk that was taken is no longer in
the aggregator. -/
def TraceFlusher.RepeatsNothing (round : TraceRound Chunk) : Prop :=
  forall (again : TraceRound Chunk) (endpoint : Endpoint) (chunk : Chunk),
    AcceptedAt (flusher.flush utils round none) endpoint chunk -> ¬ again.Holds chunk ->
      ¬ SentAt (flusher.redrive utils again (flusher.flush utils round none).failed) endpoint chunk

/-! ## Distinct endpoints -/

/-- A batch for an endpoint. -/
def copyFor (endpoint : Endpoint) (builders : List (SendDataBuilder Chunk)) :
    List (SendData Chunk) :=
  builders.map (fun builder => ⟨endpoint, builder.payloads⟩)

/-- A flush as the extension is configured: all batches are for one URL, no chunk is in two
of them, the endpoints are different ones, and of a batch for one endpoint coalescing leaves
one element. -/
structure TraceFlusher.Configured (round : TraceRound Chunk) (url apiKey : String) : Prop where
  forUrl : forall builders, builders ∈ round.getBatches.getD [] ->
    forall builder, builder ∈ builders -> builder.target.url = url
  apart : (round.getBatches.getD []).Pairwise
    (fun one other => forall chunk, InBatch chunk one -> ¬ InBatch chunk other)
  distinct : (flusher.additionalEndpoints ++ [Endpoint.mk url (some apiKey)]).Nodup
  merges : forall builders, builders ∈ round.getBatches.getD [] ->
    forall endpoint, (utils.coalesceSendData (copyFor endpoint builders)).length <= 1

theorem mem_addressed_copyFor {target : Endpoint} {builders : List (SendDataBuilder Chunk)}
    (listed : (endpoint, chunk) ∈ addressed (copyFor target builders)) :
    target = endpoint ∧ InBatch chunk builders := by
  rcases mem_addressed.mp listed with ⟨trace, member, carries⟩
  rcases List.mem_map.mp member with ⟨builder, inside, rfl⟩
  exact ⟨carries.1, builder, inside, carries.2⟩

variable {flusher utils} {url apiKey : String}

theorem TraceFlusher.Configured.vectors_eq (configured : flusher.Configured utils round url apiKey)
    {builders : List (SendDataBuilder Chunk)} (batch : builders ∈ round.getBatches.getD []) :
    flusher.vectors apiKey builders =
      (flusher.additionalEndpoints ++ [Endpoint.mk url (some apiKey)]).map
        (copyFor · builders) := by
  have primary : builders.map (fun builder => builder.build apiKey) =
      copyFor ⟨url, some apiKey⟩ builders := by
    refine List.map_congr_left (fun builder inside => ?_)
    rw [<- configured.forUrl builders batch builder inside]
    rfl
  rw [TraceFlusher.vectors, List.map_append, primary]
  refine congrArg (· ++ _) (List.map_congr_left (fun endpoint _ => ?_))
  rw [copyFor, List.map_map]
  rfl

/-- No chunk is addressed to an endpoint by two tasks. -/
theorem TraceFlusher.Configured.fresh_apart (configured : flusher.Configured utils round url apiKey) :
    (flusher.fresh round apiKey).Pairwise (fun one other =>
      forall address, address ∈ addressed one.1 -> address ∉ addressed other.1) := by
  have vectors : ((round.getBatches.getD []).flatMap (flusher.vectors apiKey)).Pairwise
      (fun one other => forall address, address ∈ addressed one -> address ∉ addressed other) := by
    refine List.pairwise_flatMap.mpr ⟨?_, ?_⟩
    · intro builders batch
      rw [configured.vectors_eq batch, List.pairwise_map]
      refine configured.distinct.imp ?_
      rintro one other different ⟨endpoint, chunk⟩ first second
      exact different ((mem_addressed_copyFor first).1.trans (mem_addressed_copyFor second).1.symm)
    · refine configured.apart.imp ?_
      rintro one other disjoint vector made another madeOther ⟨endpoint, chunk⟩ first second
      exact disjoint chunk (inBatch_of_mem_vectors flusher made first)
        (inBatch_of_mem_vectors flusher madeOther second)
  rw [<- List.zipIdx_map_fst 1 (List.flatMap _ _), List.pairwise_map] at vectors
  exact vectors

theorem mem_fresh_of_tasks {task : List (SendData Chunk) × Nat}
    (member : task ∈ flusher.tasks utils round none)
    (listed : (endpoint, chunk) ∈ addressed task.1) :
    Exists fun apiKey => round.getApiKey = some apiKey ∧
      task ∈ flusher.fresh round apiKey := by
  rw [TraceFlusher.tasks] at member
  cases key : round.getApiKey with
  | none =>
    rw [key] at member
    exact absurd member List.not_mem_nil
  | some apiKey =>
    rw [key] at member
    rcases List.mem_cons.mp member with rfl | later
    · exact absurd listed List.not_mem_nil
    · exact ⟨apiKey, rfl, later⟩

end Vectors

/-! ## An endpoint that is given twice -/

/-- Coalescing that merges nothing. -/
def TraceUtils.separate : TraceUtils Nat := ⟨id, fun traces => List.Perm.refl (addressed traces)⟩

def usIntake : Endpoint := ⟨"https://trace.agent.datadoghq.com/api/v0.2/traces", some "key"⟩

def euIntake : Endpoint := ⟨"https://trace.agent.datadoghq.eu/api/v0.2/traces", some "key"⟩

/-- One trace, of which the first send is taken and the second fails. -/
def secondSendFails : TraceRound Nat where
  getApiKey := some "key"
  getBatches := some [[⟨usIntake, [1]⟩]]
  result := fun task _ => if task = 1 then .delivered else .error
  joined := IterationOrder.listed _

/-- A round in which every send succeeds and nothing is in the aggregator. -/
def TraceRound.quiet : TraceRound Nat :=
  ⟨some "key", none, fun _ _ => .delivered, IterationOrder.listed _⟩

end Flushing
end Bottlecap
