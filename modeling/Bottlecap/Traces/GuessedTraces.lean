import Bottlecap.Traces.Reparenting

namespace Bottlecap
namespace Traces

open Foundations Lifecycle

/-!
# Whose trace id is guessed

An entry of `sorted_reparenting_info` takes the trace id of the next span that
`handle_reparenting` sees, whatever invocation that span belongs to, and so do all
entries that wait at that time.  The guess is right if that span has the trace id of
a span of the entry's own invocation.

`Arrival` is a new entry or a span, processed one after the other.  `gauge_actions`
says that this is what the trace agent does when its requests do not overlap.
-/

/-- The invocation of an entry or of a span is named by its request id. -/
inductive Arrival where
  | added (requestId : String) (spanId parentId : UInt64)
  | received (requestId : String) (span : Span)

namespace Arrival

/-- `add_reparenting`, or `handle_reparenting` on the entries themselves. -/
def step (gauge : Gauge) : Arrival -> Gauge
  | added requestId spanId parentId => gauge.addInfo (Gauge.waitingInfo requestId spanId parentId)
  | received _ span => { gauge with infos := (handleReparenting span gauge.infos).1 }

def entryId : Arrival -> Option String
  | added requestId _ _ => some requestId
  | received _ _ => none

/-! ## Requests that do not overlap -/

/-- The actions of the trace agent for an arrival: a span comes in a request of its
own. -/
def actions : Arrival -> List Action
  | added requestId spanId parentId =>
    [Action.command (Command.addReparenting requestId spanId parentId).still rfl]
  | received _ span => [.begin 0 true, .span 0 span, .finish 0 true]

end Arrival

namespace Agent

variable (env : Env)

theorem find?_of_distinct {infos : List ReparentingInfo} (distinct : Gauge.Distinct infos)
    {info : ReparentingInfo} (member : info ∈ infos) :
    infos.find? (fun other => other.requestId == info.requestId) = some info := by
  cases found : infos.find? (fun other => other.requestId == info.requestId) with
  | none => exact absurd (beq_self_eq_true info.requestId) (List.find?_eq_none.mp found info member)
  | some =>
    have matched := List.find?_some found
    rw [eq_of_distinct distinct (List.mem_of_find?_eq_some found) member (eq_of_beq matched)]

/-- Writing back what one span made of all entries. -/
theorem refresh_guessed {gauge : Gauge} (distinct : Gauge.Distinct gauge.infos)
    (traceId : UInt64) :
    (gauge.infos.map (guess traceId)).foldl Gauge.refresh gauge =
      { gauge with infos := gauge.infos.map (guess traceId) } := by
  have same : ReparentingInfo.requestId ∘ guess traceId = ReparentingInfo.requestId := by
    funext info
    exact requestId_guess traceId info
  have separate : ((gauge.infos.map (guess traceId)).map ReparentingInfo.requestId).Nodup := by
    rw [List.map_map, same]
    exact distinct
  rw [Gauge.foldl_refresh, foldl_modifyFirst_eq_map ReparentingInfo.requestId
    ReparentingInfo.requestId Gauge.refreshed (fun _ _ => rfl) separate distinct]
  congr 1
  apply List.map_congr_left
  intro info member
  have found : (fun other : ReparentingInfo => other.requestId == info.requestId) ∘ guess traceId =
      fun other => other.requestId == info.requestId := by
    funext other
    rw [Function.comp_apply, requestId_guess]
  rw [List.find?_map, found, find?_of_distinct distinct member]
  unfold guess
  simp only [Option.map_some]
  split <;> rfl

/-- A request that runs alone leaves the entries as `handle_reparenting` does. -/
theorem gauge_alone {agent : Agent} (sound : agent.Sound) (idle : agent.requests 0 = none)
    (requestId : String) (span : Span) :
    ((Arrival.received requestId span).actions.foldl (step env) agent).processor.gauge =
      Arrival.step agent.processor.gauge (.received requestId span) := by
  have finished : ((Arrival.received requestId span).actions.foldl (step env) agent).processor =
      (agent.processor.emit (.answerReparentingInfo agent.infos)).updateReparenting
        (handleReparenting span agent.infos).1 := by
    simp only [Arrival.actions, List.foldl_cons, step, idle]
    rfl
  unfold Arrival.step
  simp only
  rw [finished, gauge_write, Processor.gauge_emit _ rfl, handleReparenting_fst,
    handleReparenting_fst]
  exact refresh_guessed sound.entries span.traceId

theorem gauge_entry (agent : Agent) (requestId : String) (spanId parentId : UInt64) :
    ((Arrival.added requestId spanId parentId).actions.foldl (step env) agent).processor.gauge =
      Arrival.step agent.processor.gauge (.added requestId spanId parentId) :=
  Processor.gauge_step env agent.processor (Command.addReparenting requestId spanId parentId).still

theorem requests_actions {agent : Agent} (idle : agent.requests 0 = none) (arrival : Arrival) :
    (arrival.actions.foldl (step env) agent).requests 0 = none := by
  cases arrival with
  | added => exact idle
  | received =>
    simp only [Arrival.actions, List.foldl_cons, List.foldl_nil, step, idle, if_true,
      Function.update_self, Option.map_some]

/-- Requests that do not overlap process their spans on the entries themselves. -/
theorem gauge_actions {agent : Agent} (sound : agent.Sound) (idle : agent.requests 0 = none)
    (arrivals : List Arrival) :
    ((arrivals.flatMap Arrival.actions).foldl (step env) agent).processor.gauge =
      arrivals.foldl Arrival.step agent.processor.gauge := by
  induction arrivals generalizing agent with
  | nil => rfl
  | cons arrival _ ih =>
    have next : (arrival.actions.foldl (step env) agent).Sound :=
      foldl_invariant Sound (step env) arrival.actions
        (fun current action _ kept => kept.step env action) agent sound
    have stepped : (arrival.actions.foldl (step env) agent).processor.gauge =
        Arrival.step agent.processor.gauge arrival := by
      cases arrival with
      | added requestId spanId parentId => exact gauge_entry env agent requestId spanId parentId
      | received requestId span => exact gauge_alone env sound idle requestId span
    rw [List.flatMap_cons, List.foldl_append, List.foldl_cons,
      ih next (requests_actions env idle arrival), stepped]

/-- Two entries wait, and the span of a request gives both its trace id. -/
theorem gauge_actions_new :
    (([.added "r1" 5 0, .added "r2" 6 0, .received "r1" (spanOf 1)].flatMap
        Arrival.actions).foldl (step (Env.plain false)) new).processor.gauge.infos =
      [⟨"r1", 5, 0, 1, false⟩, ⟨"r2", 6, 0, 1, false⟩] := by
  rw [gauge_actions (Env.plain false) sound_new rfl]
  decide

end Agent

/-! ## The entries that wait -/

namespace Arrival

/-- The entries that have come since the last span. -/
def trailing (arrivals : List Arrival) : List String :=
  arrivals.foldl (fun ids arrival =>
    match arrival with
    | added requestId _ _ => ids ++ [requestId]
    | received _ _ => []) []

theorem trailing_added (arrivals : List Arrival) (requestId : String) (spanId parentId : UInt64) :
    trailing (arrivals ++ [added requestId spanId parentId]) = trailing arrivals ++ [requestId] := by
  rw [trailing]
  rw [List.foldl_append]
  rfl

theorem trailing_received (arrivals : List Arrival) (requestId : String) (span : Span) :
    trailing (arrivals ++ [received requestId span]) = [] := by
  rw [trailing]
  rw [List.foldl_append]
  rfl

/-- Those of the trailing entries that are still there: the last ones, as many as
there is room for. -/
def queued (capacity : Nat) (arrivals : List Arrival) : List String :=
  (trailing arrivals).drop ((trailing arrivals).length - capacity)

theorem queued_added {capacity : Nat} (room : 0 < capacity) (arrivals : List Arrival)
    (requestId : String) (spanId parentId : UInt64) :
    queued capacity (arrivals ++ [added requestId spanId parentId]) =
      (if (queued capacity arrivals).length = capacity then (queued capacity arrivals).tail
        else queued capacity arrivals) ++ [requestId] := by
  unfold queued
  rw [trailing_added, List.length_append, List.length_singleton, List.length_drop]
  by_cases full : capacity <= (trailing arrivals).length
  · have drops : (trailing arrivals).length + 1 - capacity =
        (trailing arrivals).length - capacity + 1 := by omega
    rw [if_pos (by omega), drops, List.tail_drop, List.drop_append_of_le_length (by omega)]
  · have nothing : (trailing arrivals).length - capacity = 0 := by omega
    have still : (trailing arrivals).length + 1 - capacity = 0 := by omega
    rw [if_neg (by omega), nothing, still, List.drop_zero, List.drop_zero]

theorem queued_received (capacity : Nat) (arrivals : List Arrival) (requestId : String)
    (span : Span) : queued capacity (arrivals ++ [received requestId span]) = [] := by
  rw [queued]
  rw [trailing_received, List.drop_nil]

/-- The entries are those with a trace id, followed by those that wait. -/
structure Holds (arrivals : List Arrival) (gauge : Gauge) : Prop where
  known : forall info, info ∈ gauge.infos -> info.requestId ∈ arrivals.filterMap entryId
  bounded : gauge.infos.length <= gauge.capacity
  parts : Exists fun settled => Exists fun waiting => gauge.infos = settled ++ waiting ∧
      (forall info, info ∈ settled -> info.needsTraceId = false) ∧
      (forall info, info ∈ waiting -> info.needsTraceId = true) ∧
      waiting.map ReparentingInfo.requestId = queued gauge.capacity arrivals

variable {arrivals : List Arrival} {gauge : Gauge}

theorem capacity_step (gauge : Gauge) (arrival : Arrival) :
    (step gauge arrival).capacity = gauge.capacity := by
  cases arrival with
  | added =>
    rw [step, Gauge.addInfo]
    split <;> rfl
  | received => rfl

/-- An entry that is not listed yet goes to the end, and the oldest one makes room. -/
theorem infos_added {requestId : String} (unlisted : ¬ Gauge.listed requestId gauge.infos = true)
    (spanId parentId : UInt64) :
    (step gauge (.added requestId spanId parentId)).infos =
      (if gauge.infos.length = gauge.capacity then gauge.infos.tail else gauge.infos) ++
        [Gauge.waitingInfo requestId spanId parentId] := by
  exact congrArg Gauge.infos (if_neg unlisted)

/-- Entries with a trace id before entries that wait stay so when one more waits: the
oldest of all makes room, and only if none has a trace id it is one that waits. -/
theorem parts_added {infos settled waiting : List ReparentingInfo} {capacity : Nat}
    (parts : infos = settled ++ waiting) (short : infos.length <= capacity)
    (done : forall info, info ∈ settled -> info.needsTraceId = false)
    (wait : forall info, info ∈ waiting -> info.needsTraceId = true)
    {new : ReparentingInfo} (waits : new.needsTraceId = true) :
    Exists fun done => Exists fun pending =>
      (if infos.length = capacity then infos.tail else infos) ++ [new] = done ++ pending ∧
        (forall info, info ∈ done -> info.needsTraceId = false) ∧
        (forall info, info ∈ pending -> info.needsTraceId = true) ∧
        pending = (if waiting.length = capacity then waiting.tail else waiting) ++ [new] := by
  have lengths := congrArg List.length parts
  rw [List.length_append] at lengths
  have also : forall kept : List ReparentingInfo, (forall info, info ∈ kept ->
      info.needsTraceId = true) -> forall info, info ∈ kept ++ [new] ->
        info.needsTraceId = true := by
    intro kept each info member
    rcases List.mem_append.mp member with old | last
    · exact each info old
    · rw [List.mem_singleton.mp last]
      exact waits
  cases settled with
  | nil =>
    rw [parts]
    refine ⟨[], _, (List.nil_append _).symm, done, also _ ?_, rfl⟩
    intro info member
    split at member
    · exact wait info (List.mem_of_mem_tail member)
    · exact wait info member
  | cons oldest settled =>
    rw [List.length_cons] at lengths
    have kept : (if infos.length = capacity then infos.tail else infos) =
        (if infos.length = capacity then settled else oldest :: settled) ++ waiting := by
      rw [parts]
      split <;> rfl
    refine ⟨if infos.length = capacity then settled else oldest :: settled, waiting ++ [new],
      ?_, ?_, also waiting wait, ?_⟩
    · rw [kept, List.append_assoc]
    · intro info member
      split at member
      · exact done info (List.mem_cons_of_mem oldest member)
      · exact done info member
    · rw [if_neg (by omega)]

theorem Holds.added (holds : Holds arrivals gauge) (room : 0 < gauge.capacity)
    {requestId : String} (fresh : requestId ∉ arrivals.filterMap entryId)
    (spanId parentId : UInt64) :
    Holds (arrivals ++ [.added requestId spanId parentId])
      (step gauge (.added requestId spanId parentId)) := by
  have unlisted : ¬ Gauge.listed requestId gauge.infos = true := by
    intro listed
    rcases List.mem_map.mp (Gauge.mem_of_listed.mp listed) with ⟨info, member, same⟩
    exact fresh (same ▸ holds.known info member)
  have infos := infos_added unlisted spanId parentId
  have capacity := capacity_step gauge (.added requestId spanId parentId)
  have bounded := holds.bounded
  refine ⟨?_, ?_, ?_⟩
  · intro info member
    rw [List.filterMap_append]
    rcases Gauge.mem_addInfo member with old | ⟨new, _⟩
    · exact List.mem_append_left _ (holds.known info old)
    · rw [new]
      exact List.mem_append_right _ List.mem_cons_self
  · rw [infos, capacity, List.length_append, List.length_singleton]
    split
    · rw [List.length_tail]
      omega
    · omega
  · rcases holds.parts with ⟨settled, waiting, parts, done, wait, ids⟩
    have new : (Gauge.waitingInfo requestId spanId parentId).needsTraceId = true := rfl
    rcases parts_added parts bounded done wait new with ⟨known, pending, joined, done, wait, same⟩
    refine ⟨known, pending, infos.trans joined, done, wait, ?_⟩
    rw [capacity, queued_added room, <- ids, List.length_map, same, List.map_append]
    split
    · rw [List.map_tail]
      rfl
    · rfl

theorem Holds.received (holds : Holds arrivals gauge) (requestId : String) (span : Span) :
    Holds (arrivals ++ [.received requestId span])
      (step gauge (.received requestId span)) := by
  have infos : (step gauge (.received requestId span)).infos =
      gauge.infos.map (guess span.traceId) := handleReparenting_fst span gauge.infos
  refine ⟨?_, ?_, ?_⟩
  · intro info member
    rw [infos] at member
    rcases List.mem_map.mp member with ⟨earlier, old, rfl⟩
    rw [List.filterMap_append, requestId_guess]
    exact List.mem_append_left _ (holds.known earlier old)
  · rw [infos, List.length_map]
    exact holds.bounded
  · refine ⟨gauge.infos.map (guess span.traceId), [], ?_, ?_, nofun, ?_⟩
    · rw [infos, List.append_nil]
    · intro info member
      rcases List.mem_map.mp member with ⟨earlier, _, rfl⟩
      exact needsTraceId_guess span.traceId earlier
    · rw [queued_received]
      rfl

/-- Whatever has arrived, if every entry is of a different request. -/
theorem holds_foldl {start : Gauge} (empty : start.infos = []) (room : 0 < start.capacity)
    (distinct : (arrivals.filterMap entryId).Nodup) :
    Holds arrivals (arrivals.foldl step start) := by
  induction arrivals using List.reverseRecOn with
  | nil =>
    refine ⟨?_, ?_, [], [], ?_, nofun, nofun, List.drop_nil.symm⟩
    · rw [List.foldl_nil, empty]
      exact nofun
    · rw [List.foldl_nil, empty]
      exact Nat.zero_le _
    · exact empty
  | append_singleton earlier arrival ih =>
    rw [List.filterMap_append] at distinct
    have holds := ih (distinct.sublist (List.sublist_append_left _ _))
    have capacity : (earlier.foldl step start).capacity = start.capacity :=
      foldl_project Gauge.capacity step capacity_step earlier start
    rw [List.foldl_append]
    cases arrival with
    | added _ spanId parentId =>
      refine holds.added (capacity ▸ room) ?_ spanId parentId
      intro member
      exact List.disjoint_of_nodup_append distinct member List.mem_cons_self
    | received requestId span => exact holds.received requestId span

/-- An entry waits exactly if it is among the queued ones. -/
theorem Holds.waiting_iff (holds : Holds arrivals gauge) (requestId : String) :
    (Exists fun info => info ∈ gauge.infos ∧ info.needsTraceId = true ∧
      info.requestId = requestId) <-> requestId ∈ queued gauge.capacity arrivals := by
  rcases holds.parts with ⟨settled, waiting, split, done, wait, ids⟩
  rw [split, <- ids, List.mem_map]
  constructor
  · rintro ⟨info, member, needs, same⟩
    rcases List.mem_append.mp member with old | new
    · exact absurd needs (done info old ▸ Bool.false_ne_true)
    · exact ⟨info, new, same⟩
  · rintro ⟨info, member, same⟩
    exact ⟨info, List.mem_append_right settled member, wait info member, same⟩

/-! ## The queue, read off the arrivals -/

theorem trailing_append {entries : List Arrival}
    (all : forall arrival, arrival ∈ entries -> arrival.entryId.isSome = true)
    (before : List Arrival) :
    trailing (before ++ entries) = trailing before ++ entries.filterMap entryId := by
  induction entries generalizing before with
  | nil => rw [List.append_nil, List.filterMap_nil, List.append_nil]
  | cons arrival _ ih =>
    rw [List.forall_mem_cons] at all
    cases arrival with
    | received => cases all.1
    | added =>
      rw [List.append_cons, ih all.2,
        trailing_added, List.append_assoc]
      rfl

/-- A trailing entry has come since the last span, with the later ones after it. -/
theorem exists_of_trailing {first later : List String} {requestId : String}
    (trails : trailing arrivals = first ++ requestId :: later) :
    Exists fun before => Exists fun spanId => Exists fun parentId => Exists fun entries =>
        arrivals = before ++ added requestId spanId parentId :: entries ∧
          (forall arrival, arrival ∈ entries -> arrival.entryId.isSome = true) ∧
          entries.length = later.length := by
  induction arrivals using List.reverseRecOn generalizing later with
  | nil => exact absurd trails.symm (List.append_ne_nil_of_right_ne_nil _ (List.cons_ne_nil _ _))
  | append_singleton earlier arrival ih =>
    cases arrival with
    | received =>
      rw [trailing_received] at trails
      exact absurd trails.symm (List.append_ne_nil_of_right_ne_nil _ (List.cons_ne_nil _ _))
    | added id spanId parentId =>
      rw [trailing_added] at trails
      rcases concat_eq_split trails with ⟨_, rfl, rfl⟩ | ⟨rest, rfl, before⟩
      · exact ⟨earlier, spanId, parentId, [], rfl, nofun, rfl⟩
      · rcases ih before with ⟨before, firstSpan, firstParent, entries, cut, all, length⟩
        refine ⟨before, firstSpan, firstParent, entries ++ [added id spanId parentId], ?_, ?_, ?_⟩
        · rw [cut, List.append_assoc, List.cons_append]
        · exact List.forall_mem_append.mpr ⟨all, List.forall_mem_singleton.mpr rfl⟩
        · rw [List.length_append, List.length_append, length, List.length_singleton,
            List.length_singleton]

/-- An entry is queued exactly if no span and fewer entries than there is room for
have come after it. -/
theorem mem_queued_iff (capacity : Nat) (requestId : String) :
    requestId ∈ queued capacity arrivals <->
      Exists fun before => Exists fun spanId => Exists fun parentId => Exists fun entries =>
          arrivals = before ++ added requestId spanId parentId :: entries ∧
            (forall arrival, arrival ∈ entries -> arrival.entryId.isSome = true) ∧
            entries.length < capacity := by
  constructor
  · intro member
    rcases List.append_of_mem member with ⟨first, later, split⟩
    have whole := List.take_append_drop ((trailing arrivals).length - capacity) (trailing arrivals)
    have lengths := congrArg List.length split
    unfold queued at split lengths
    rw [split, <- List.append_assoc] at whole
    rw [List.length_drop, List.length_append, List.length_cons] at lengths
    rcases exists_of_trailing whole.symm with
      ⟨before, spanId, parentId, entries, cut, all, length⟩
    exact ⟨before, spanId, parentId, entries, cut, all, by omega⟩
  · rintro ⟨before, spanId, parentId, entries, cut, all, room⟩
    have trails : trailing arrivals =
        trailing before ++ requestId :: entries.filterMap entryId := by
      rw [cut, List.append_cons, trailing_append all, trailing_added, List.append_assoc]
      rfl
    have length : (entries.filterMap entryId).length = entries.length :=
      List.filterMap_length_eq_length.mpr all
    have drops : (trailing arrivals).length - capacity <= (trailing before).length := by
      rw [trails, List.length_append, List.length_cons]
      omega
    rw [queued]
    rw [trails] at drops ⊢
    rw [List.drop_append_of_le_length drops]
    exact List.mem_append_right _ List.mem_cons_self

/-! ## Right guesses -/

/-- A span of the invocation has this trace id. -/
def OwnTrace (arrivals : List Arrival) (requestId : String) (traceId : UInt64) : Prop :=
  Exists fun span => received requestId span ∈ arrivals ∧ span.traceId = traceId

/-- Every entry that has a trace id has one of its own invocation. -/
def GuessesOwn (arrivals : List Arrival) (gauge : Gauge) : Prop :=
  forall info, info ∈ gauge.infos -> info.needsTraceId = false ->
    OwnTrace arrivals info.requestId info.guessedTraceId

/-- The first span after an entry that is still there has a trace id of the entry's
own invocation. -/
def FirstSpanOwn (capacity : Nat) (arrivals : List Arrival) : Prop :=
  forall before requestId spanId parentId entries other span after,
    arrivals = before ++ added requestId spanId parentId :: (entries ++
      received other span :: after) ->
    (forall arrival, arrival ∈ entries -> arrival.entryId.isSome = true) ->
    entries.length < capacity -> OwnTrace arrivals requestId span.traceId

/-- The guesses that one arrival makes are right. -/
def GuessOwn (arrivals : List Arrival) (gauge : Gauge) : Arrival -> Prop
  | added _ _ _ => True
  | received _ span => forall info, info ∈ gauge.infos -> info.needsTraceId = true ->
      OwnTrace arrivals info.requestId span.traceId

theorem guessesOwn_step (right : GuessesOwn arrivals gauge) (arrival : Arrival) :
    GuessesOwn arrivals (step gauge arrival) <-> GuessOwn arrivals gauge arrival := by
  cases arrival with
  | added =>
    refine ⟨fun _ => trivial, fun _ info member settled => ?_⟩
    rcases Gauge.mem_addInfo member with old | ⟨new, _⟩
    · exact right info old settled
    · rw [new] at settled
      cases settled
  | received requestId span =>
    have infos : (step gauge (received requestId span)).infos =
        gauge.infos.map (guess span.traceId) := handleReparenting_fst span gauge.infos
    constructor
    · intro later info member waiting
      have own := later (guess span.traceId info)
        (infos ▸ List.mem_map.mpr ⟨info, member, rfl⟩) (needsTraceId_guess span.traceId info)
      rw [requestId_guess, guessedTraceId_guess_of_waiting waiting] at own
      exact own
    · intro each info member _
      rw [infos] at member
      rcases List.mem_map.mp member with ⟨earlier, old, rfl⟩
      rw [requestId_guess]
      cases waiting : earlier.needsTraceId with
      | true =>
        rw [guessedTraceId_guess_of_waiting waiting]
        exact each earlier old waiting
      | false =>
        rw [guess_of_settled waiting]
        exact right earlier old waiting

/-- With one entry for each invocation and whatever order of spans, every guess is
right exactly if the first span after each entry has a trace id of the entry's own
invocation. -/
theorem guesses_own_iff (arrivals : List Arrival)
    (distinct : (arrivals.filterMap entryId).Nodup) :
    Machine.Always step (GuessesOwn arrivals) Processor.new.gauge arrivals <->
      FirstSpanOwn Processor.new.gauge.capacity arrivals := by
  have initially : GuessesOwn arrivals Processor.new.gauge := nofun
  rw [Machine.always_iff_along (fun _ arrival right => guessesOwn_step right arrival),
    and_iff_right initially, Machine.along_iff_forall_split]
  -- At a span, the entries that wait are the queued ones.
  have waits : forall before arrival after, arrivals = before ++ arrival :: after ->
      Holds before (before.foldl step Processor.new.gauge) := by
    intro before arrival after cut
    refine holds_foldl rfl (by decide) (distinct.sublist ?_)
    rw [cut]
    exact (List.sublist_append_left before _).filterMap entryId
  have capacity : forall before : List Arrival,
      (before.foldl step Processor.new.gauge).capacity = Processor.new.gauge.capacity :=
    fun before => foldl_project Gauge.capacity step capacity_step before Processor.new.gauge
  constructor
  · intro own before requestId spanId parentId entries other span after cut all room
    have cutAt : arrivals = (before ++ added requestId spanId parentId :: entries) ++
        received other span :: after := by
      rw [cut, List.append_assoc, List.cons_append]
    have queue : requestId ∈ queued Processor.new.gauge.capacity
        (before ++ added requestId spanId parentId :: entries) :=
      (mem_queued_iff _ requestId).mpr ⟨before, spanId, parentId, entries, rfl, all, room⟩
    rw [<- capacity] at queue
    rcases ((waits _ _ _ cutAt).waiting_iff requestId).mpr queue with
      ⟨info, member, waiting, same⟩
    rw [<- same]
    exact own _ _ _ cutAt info member waiting
  · intro prompt before arrival after cut
    cases arrival with
    | added => trivial
    | received other span =>
      intro info member waiting
      have queue := ((waits _ _ _ cut).waiting_iff info.requestId).mp
        ⟨info, member, waiting, rfl⟩
      rw [capacity] at queue
      rcases (mem_queued_iff _ info.requestId).mp queue with
        ⟨first, spanId, parentId, entries, split, all, room⟩
      refine prompt first info.requestId spanId parentId entries other span after ?_ all room
      rw [cut, split, List.append_assoc, List.cons_append]

/-- The span of an invocation comes before the entry of the next one. -/
def alternating : List Arrival :=
  [added "r1" 5 0, received "r1" (Agent.spanOf 1), added "r2" 6 0, received "r2" (Agent.spanOf 2)]

theorem guesses_own_iff_alternating :
    Machine.Always step (GuessesOwn alternating) Processor.new.gauge alternating := by
  apply (guesses_own_iff _ (by decide)).mpr
  intro before requestId spanId parentId entries other span after cut all _
  rcases before with _ | ⟨first, _ | ⟨second, _ | ⟨third, _ | ⟨fourth, before⟩⟩⟩⟩
  · cases entries with
    | nil =>
      cases cut
      exact ⟨Agent.spanOf 1, by simp [alternating], rfl⟩
    | cons entry =>
      have named := all entry List.mem_cons_self
      simp only [alternating, List.cons_append, List.nil_append, List.cons.injEq] at cut
      rw [<- cut.2.1] at named
      cases named
  · cases cut
  · cases entries with
    | nil =>
      cases cut
      exact ⟨Agent.spanOf 2, by simp [alternating], rfl⟩
    | cons entry =>
      have named := all entry List.mem_cons_self
      simp only [alternating, List.cons_append, List.nil_append, List.cons.injEq] at cut
      rw [<- cut.2.2.2.1] at named
      cases named
  · cases cut
  · exact absurd (congrArg List.length cut) (by
      simp only [alternating, List.length_cons, List.length_append, List.length_nil]
      omega)

/-- As `ReparentingInfo` documents: before a span of an invocation comes one of the
invocation before it. -/
def InOrder (arrivals : List Arrival) : Prop :=
  forall before requestId span after, arrivals = before ++ received requestId span :: after ->
    forall previous, [previous, requestId] <:+: arrivals.filterMap entryId ->
      Exists fun earlier => received previous earlier ∈ before

/-- Two invocations with an entry each, then a span of the first and one of the
second. -/
def twoWaiting : List Arrival :=
  [added "r1" 5 0, added "r2" 6 0, received "r1" (Agent.spanOf 1), received "r2" (Agent.spanOf 2)]

theorem twoWaiting_inOrder : InOrder twoWaiting := by
  intro before requestId span after cut previous consecutive
  rcases consecutive with ⟨first, last, listed⟩
  have names : requestId = "r1" ∨ requestId = "r2" ∧
      before = [added "r1" 5 0, added "r2" 6 0, received "r1" (Agent.spanOf 1)] := by
    rcases before with _ | ⟨a, _ | ⟨b, _ | ⟨c, _ | ⟨d, before⟩⟩⟩⟩
    · cases cut
    · cases cut
    · cases cut
      exact Or.inl rfl
    · cases cut
      exact Or.inr ⟨rfl, rfl⟩
    · exact absurd (congrArg List.length cut) (by
        simp only [twoWaiting, List.length_cons, List.length_append, List.length_nil]
        omega)
  rcases first with _ | ⟨a, first⟩
  · have pair : previous = "r1" ∧ requestId = "r2" := by
      injection listed with previousIs rest
      injection rest with requestIs _
      exact ⟨previousIs, requestIs⟩
    rcases names with other | ⟨_, prior⟩
    · exact absurd (other.symm.trans pair.2) (by decide)
    · rw [prior, pair.1]
      exact ⟨Agent.spanOf 1, List.mem_cons_of_mem _ (List.mem_cons_of_mem _ List.mem_cons_self)⟩
  · exact absurd (congrArg List.length listed) (by
      simp only [twoWaiting, List.filterMap_cons, entryId, List.filterMap_nil, List.length_cons,
        List.length_append]
      omega)

/-- Both entries wait, and the span of the first invocation gives both its trace
id. -/
theorem second_entry_guesses_first_trace :
    ¬ forall arrivals : List Arrival, (arrivals.filterMap entryId).Nodup -> InOrder arrivals ->
      Machine.Always step (GuessesOwn arrivals) Processor.new.gauge arrivals := by
  intro always
  have own := (always twoWaiting (by decide) twoWaiting_inOrder).last
  have infos : (twoWaiting.foldl step Processor.new.gauge).infos =
      [⟨"r1", 5, 0, 1, false⟩, ⟨"r2", 6, 0, 1, false⟩] := by decide
  rcases own ⟨"r2", 6, 0, 1, false⟩
    (infos ▸ List.mem_cons_of_mem _ List.mem_cons_self) rfl with ⟨span, member, traced⟩
  have second : span = Agent.spanOf 2 := by
    unfold twoWaiting at member
    simp only [List.mem_cons, reduceCtorEq, received.injEq, String.reduceEq, false_and, true_and,
      false_or, List.not_mem_nil, or_false] at member
    exact member
  rw [second] at traced
  exact absurd traced (by decide)

end Arrival
end Traces
end Bottlecap
