import Mathlib.Logic.Function.Basic
import Bottlecap.Lifecycle.Simulation

namespace Bottlecap
namespace Traces

open Foundations Lifecycle

/-!
# Reparenting in the trace agent

`handle_traces` and `handle_reparenting` of `traces/trace_agent.rs`.  A request
takes a copy of `sorted_reparenting_info`, processes its spans on that copy, and
writes it back with `update_reparenting`.  Any number of requests are under way at
once, and the commands of the processor are handled in between.  Of the spans of a
request only those remain that the deduper keeps.  Their other commands, such as
`add_tracer_span`, are commands of the processor like those of other tasks.
-/

/-! ## One span -/

/-- An entry that needs a trace id takes the one it is offered. -/
def guess (traceId : UInt64) (info : ReparentingInfo) : ReparentingInfo :=
  if info.needsTraceId then { info with guessedTraceId := traceId, needsTraceId := false }
  else info

/-- The body of the loop of `handle_reparenting`. -/
def handleInfo (span : Span) (info : ReparentingInfo) : ReparentingInfo × Span :=
  let info := guess span.traceId info
  if span.traceId = info.guessedTraceId ∧ span.parentId = info.parentIdToReparent then
    (info, { span with parentId := info.invocationSpanId })
  else (info, span)

def handleReparenting (span : Span) : List ReparentingInfo -> List ReparentingInfo × Span
  | [] => ([], span)
  | info :: rest =>
    let (info, span) := handleInfo span info
    let (rest, span) := handleReparenting span rest
    (info :: rest, span)

theorem handleInfo_fst (span : Span) (info : ReparentingInfo) :
    (handleInfo span info).1 = guess span.traceId info := by
  unfold handleInfo
  simp only
  split <;> rfl

theorem traceId_handleInfo (span : Span) (info : ReparentingInfo) :
    (handleInfo span info).2.traceId = span.traceId := by
  unfold handleInfo
  simp only
  split <;> rfl

/-- Every entry that waits for a trace id takes that of the span. -/
theorem handleReparenting_fst (span : Span) (infos : List ReparentingInfo) :
    (handleReparenting span infos).1 = infos.map (guess span.traceId) := by
  induction infos generalizing span with
  | nil => rfl
  | cons _ _ ih =>
    simp only [handleReparenting, List.map_cons, handleInfo_fst, ih, traceId_handleInfo]

theorem requestId_guess (traceId : UInt64) (info : ReparentingInfo) :
    (guess traceId info).requestId = info.requestId := by
  rw [guess]
  split <;> rfl

theorem needsTraceId_guess (traceId : UInt64) (info : ReparentingInfo) :
    (guess traceId info).needsTraceId = false := by
  rw [guess]
  split
  · rfl
  · rename_i settled
    exact Bool.not_eq_true _ ▸ settled

theorem guess_of_settled {info : ReparentingInfo} (settled : info.needsTraceId = false)
    (traceId : UInt64) : guess traceId info = info := by
  rw [guess]
  rw [settled]
  rfl

theorem guessedTraceId_guess_of_waiting {info : ReparentingInfo}
    (waiting : info.needsTraceId = true) (traceId : UInt64) :
    (guess traceId info).guessedTraceId = traceId := by
  rw [guess]
  rw [waiting]
  rfl

/-! ## One request -/

/-- The entries and the kept spans of a request after one more span. -/
def handleSpan (progress : List ReparentingInfo × List Span) (span : Span) :
    List ReparentingInfo × List Span :=
  let (infos, span) := handleReparenting span progress.1
  (infos, progress.2 ++ [span])

/-- A request of `handle_traces` between its two commands: the entries it took, the
spans it has kept since, and what it has made of both. -/
structure Request where
  taken : List ReparentingInfo
  received : List Span
  reparentingInfo : List ReparentingInfo
  chunk : List Span
  handled : received.foldl handleSpan (taken, []) = (reparentingInfo, chunk)

namespace Request

def ofTaken (taken : List ReparentingInfo) : Request where
  taken := taken
  received := []
  reparentingInfo := taken
  chunk := []
  handled := rfl

def addSpan (span : Span) (request : Request) : Request where
  taken := request.taken
  received := request.received ++ [span]
  reparentingInfo := (handleSpan (request.reparentingInfo, request.chunk) span).1
  chunk := (handleSpan (request.reparentingInfo, request.chunk) span).2
  handled := by
    rw [List.foldl_append, request.handled]
    rfl

/-- The trace id of the first span. -/
def firstTraceId (request : Request) : Option UInt64 := request.received.head?.map Span.traceId

/-- What the request writes back for an entry that it took. -/
def resolved (request : Request) (info : ReparentingInfo) : ReparentingInfo :=
  request.firstTraceId.elim info (fun traceId => guess traceId info)

/-- Only the first span decides: afterwards no entry of the copy needs a trace id. -/
theorem foldl_handleSpan (spans : List Span) (infos : List ReparentingInfo) (chunk : List Span) :
    (spans.foldl handleSpan (infos, chunk)).1 = infos.map (fun info =>
      (spans.head?.map Span.traceId).elim info (fun traceId => guess traceId info)) := by
  induction spans generalizing infos chunk with
  | nil => exact (List.map_id infos).symm
  | cons span rest ih =>
    rw [List.foldl_cons]
    unfold handleSpan at ih ⊢
    simp only [handleReparenting_fst] at ih ⊢
    rw [ih, List.map_map]
    apply List.map_congr_left
    intro info _
    cases rest with
    | nil => rfl
    | cons second =>
      exact guess_of_settled (needsTraceId_guess span.traceId info) second.traceId

theorem reparentingInfo_eq (request : Request) :
    request.reparentingInfo = request.taken.map request.resolved := by
  have handled := foldl_handleSpan request.received request.taken []
  rw [request.handled] at handled
  exact handled

theorem requestId_resolved (request : Request) (info : ReparentingInfo) :
    (request.resolved info).requestId = info.requestId := by
  rw [resolved]
  cases request.firstTraceId with
  | none => rfl
  | some traceId => exact requestId_guess traceId info

theorem requestIds_reparentingInfo (request : Request) :
    request.reparentingInfo.map ReparentingInfo.requestId =
      request.taken.map ReparentingInfo.requestId := by
  rw [reparentingInfo_eq, List.map_map]
  apply List.map_congr_left
  intro info _
  exact request.requestId_resolved info

/-- The request writes back a trace id that it took, or else that of its first
span. -/
theorem resolved_iff (request : Request) (info : ReparentingInfo) (traceId : UInt64) :
    (request.resolved info).needsTraceId = false ∧
        (request.resolved info).guessedTraceId = traceId <->
      info.needsTraceId = false ∧ info.guessedTraceId = traceId ∨
        info.needsTraceId = true ∧ request.firstTraceId = some traceId := by
  rw [resolved]
  cases waiting : info.needsTraceId with
  | false =>
    have settled : request.firstTraceId.elim info (fun traceId => guess traceId info) = info := by
      cases request.firstTraceId with
      | none => rfl
      | some first => exact guess_of_settled waiting first
    rw [settled, waiting]
    simp only [Bool.false_eq_true, false_and, or_false]
  | true =>
    cases request.firstTraceId with
    | none => simp only [Option.elim_none, waiting, Bool.true_eq_false, false_and, reduceCtorEq,
        and_false, or_self]
    | some =>
      rw [Option.elim_some, needsTraceId_guess, guessedTraceId_guess_of_waiting waiting]
      simp only [Bool.true_eq_false, false_and, false_or, Option.some.injEq]

end Request

/-! ## All requests -/

/-- `get` and `update` may fail: the first gives an empty copy, the second is not
handled. -/
inductive Action where
  | command (input : Processor.Input) (other : input.command.updatesReparenting = false)
  | begin (request : Nat) (answered : Bool)
  | span (request : Nat) (span : Span)
  | finish (request : Nat) (delivered : Bool)

structure Agent where
  processor : Processor
  requests : Nat -> Option Request

namespace Agent

def new : Agent := ⟨Processor.new, fun _ => none⟩

def infos (agent : Agent) : List ReparentingInfo := agent.processor.gauge.infos

variable (env : Env)

def step (agent : Agent) : Action -> Agent
  | .command input _ => { agent with processor := agent.processor.step env input }
  | .begin request answered =>
    match agent.requests request with
    | some _ => agent
    | none =>
      if answered then
        { processor :=
            agent.processor.emit (.answerReparentingInfo agent.infos)
          requests :=
            Function.update agent.requests request (some (Request.ofTaken agent.infos)) }
      else { agent with
        requests := Function.update agent.requests request (some (Request.ofTaken [])) }
  | .span request span =>
    { agent with
      requests := Function.update agent.requests request
        ((agent.requests request).map (Request.addSpan span)) }
  | .finish request delivered =>
    match agent.requests request with
    | none => agent
    | some finished =>
      { processor :=
          if delivered then agent.processor.updateReparenting finished.reparentingInfo
          else agent.processor
        requests := Function.update agent.requests request none }

end Agent

/-! ## What a step does to the entries -/

/-- Entries that have a trace id keep it, as long as they are there. -/
def Stays (before after : List ReparentingInfo) : Prop :=
  forall info, info ∈ before -> info.needsTraceId = false ->
    forall later, later ∈ after -> later.requestId = info.requestId ->
      later.needsTraceId = false ∧ later.guessedTraceId = info.guessedTraceId

theorem eq_of_distinct {infos : List ReparentingInfo} (distinct : Gauge.Distinct infos)
    {first second : ReparentingInfo} (left : first ∈ infos) (right : second ∈ infos)
    (same : first.requestId = second.requestId) : first = second :=
  List.inj_on_of_nodup_map distinct left right same

/-- Entries may leave, and entries of other requests may come. -/
theorem stays_of_kept {before after : List ReparentingInfo} (distinct : Gauge.Distinct before)
    (kept : forall later, later ∈ after ->
      later ∈ before ∨ Gauge.listed later.requestId before = false) : Stays before after := by
  intro info member settled later present same
  rcases kept later present with old | fresh
  · rw [eq_of_distinct distinct old member same]
    exact ⟨settled, rfl⟩
  · have listed : Gauge.listed later.requestId before = true :=
      List.any_eq_true.mpr ⟨info, member, beq_iff_eq.mpr same.symm⟩
    rw [fresh] at listed
    cases listed

theorem stays_map_iff {infos : List ReparentingInfo} (distinct : Gauge.Distinct infos)
    {change : ReparentingInfo -> ReparentingInfo}
    (keeps : forall info, (change info).requestId = info.requestId) :
    Stays infos (infos.map change) <->
      forall info, info ∈ infos -> info.needsTraceId = false ->
        (change info).needsTraceId = false ∧
          (change info).guessedTraceId = info.guessedTraceId := by
  constructor
  · intro stays info member settled
    exact stays info member settled (change info) (List.mem_map.mpr ⟨info, member, rfl⟩)
      (keeps info)
  · intro each info member settled later present same
    rcases List.mem_map.mp present with ⟨origin, old, rfl⟩
    rw [keeps] at same
    rw [eq_of_distinct distinct old member same]
    exact each info member settled

namespace Agent

variable (env : Env)

variable {agent : Agent}

theorem infos_command (agent : Agent) (input : Processor.Input)
    (other : input.command.updatesReparenting = false) :
    (agent.step env (.command input other)).infos =
      (agent.processor.gauge.after env input.ambient (agent.processor.errorsOf env input.command)
        input.command).infos :=
  congrArg Gauge.infos (Processor.gauge_step env agent.processor input)

theorem infos_begin (agent : Agent) (request : Nat) (answered : Bool) :
    (agent.step env (.begin request answered)).infos = agent.infos := by
  unfold step infos
  simp only
  split
  · rfl
  · split
    · exact congrArg Gauge.infos (Processor.gauge_emit agent.processor rfl)
    · rfl

theorem gauge_write (processor : Processor) (infos : List ReparentingInfo) :
    (processor.updateReparenting infos).gauge = infos.foldl Gauge.refresh processor.gauge :=
  Machine.view_foldl Processor.gauge_updateReparentingEntry processor infos

/-- A write reaches the entries of its requests, each once. -/
theorem infos_finish {request : Nat} {finished : Request}
    (running : agent.requests request = some finished) (separate : Gauge.Distinct finished.taken)
    (distinct : Gauge.Distinct agent.infos) :
    (agent.step env (.finish request true)).infos =
      agent.infos.map (fun existing =>
        ((finished.reparentingInfo.find? (fun info => info.requestId == existing.requestId)).map
          (fun info => Gauge.refreshed info existing)).getD existing) := by
  have separated : (finished.reparentingInfo.map ReparentingInfo.requestId).Nodup := by
    rw [finished.requestIds_reparentingInfo]
    exact separate
  rw [step, infos]
  simp only [running, if_true]
  rw [gauge_write, Gauge.foldl_refresh]
  exact foldl_modifyFirst_eq_map ReparentingInfo.requestId ReparentingInfo.requestId Gauge.refreshed
    (fun _ _ => rfl) separated distinct

/-- The entries are of different requests, and so are those of every copy. -/
structure Sound (agent : Agent) : Prop where
  entries : Gauge.Distinct agent.infos
  copies : forall request running, agent.requests request = some running ->
    Gauge.Distinct running.taken

theorem sound_new : Agent.new.Sound :=
  ⟨List.nodup_nil, fun _ _ running => nomatch running⟩

/-- Replacing one request. -/
theorem Sound.copies_update (sound : agent.Sound) {request : Nat} {replacement : Option Request}
    (separate : forall running, replacement = some running -> Gauge.Distinct running.taken) :
    forall other running, Function.update agent.requests request replacement other = some running ->
      Gauge.Distinct running.taken := by
  intro other running found
  by_cases same : other = request
  · rw [same, Function.update_self] at found
    exact separate running found
  · rw [Function.update_of_ne same] at found
    exact sound.copies other running found

theorem Sound.step (sound : agent.Sound) (action : Action) :
    (agent.step env action).Sound := by
  cases action with
  | command =>
    refine ⟨?_, sound.copies⟩
    rw [infos_command]
    exact sound.entries.after env _ _ _
  | begin request answered =>
    refine ⟨(infos_begin env agent request answered).symm ▸ sound.entries, ?_⟩
    unfold Agent.step
    simp only
    cases agent.requests request with
    | some => exact sound.copies
    | none =>
      cases answered with
      | true => exact sound.copies_update (fun _ opened => Option.some.inj opened ▸ sound.entries)
      | false => exact sound.copies_update (fun _ opened => Option.some.inj opened ▸ List.nodup_nil)
  | span request =>
    refine ⟨sound.entries, sound.copies_update ?_⟩
    intro running extended
    rcases Option.map_eq_some_iff.mp extended with ⟨earlier, found, rfl⟩
    exact sound.copies request earlier found
  | finish request delivered =>
    unfold Agent.step
    simp only
    cases agent.requests request with
    | none => exact sound
    | some =>
      refine ⟨?_, sound.copies_update (fun _ closed => nomatch closed)⟩
      cases delivered with
      | false => exact sound.entries
      | true =>
        simp only [if_true, infos, gauge_write]
        exact foldl_invariant (fun current : Gauge => Gauge.Distinct current.infos)
          Gauge.refresh _ (fun current info _ kept => kept.refresh info) _ sound.entries

/-- For every entry that has a trace id by now, the request took the same trace id,
or it took the entry while it was waiting and its first span has this trace id. -/
def Agrees (finished : Request) (infos : List ReparentingInfo) : Prop :=
  forall existing, existing ∈ infos -> existing.needsTraceId = false ->
    forall taken, taken ∈ finished.taken -> taken.requestId = existing.requestId ->
      taken.needsTraceId = false ∧ taken.guessedTraceId = existing.guessedTraceId ∨
        taken.needsTraceId = true ∧ finished.firstTraceId = some existing.guessedTraceId

theorem stays_finish_iff (sound : agent.Sound) {request : Nat} {finished : Request}
    (running : agent.requests request = some finished) :
    Stays agent.infos (agent.step env (.finish request true)).infos <->
      Agrees finished agent.infos := by
  have separate := sound.copies request finished running
  rw [infos_finish env running separate sound.entries, stays_map_iff sound.entries]
  · apply forall_congr'
    intro existing
    apply imp_congr_right
    intro _
    apply imp_congr_right
    intro settled
    rw [finished.reparentingInfo_eq, List.find?_map]
    have found : (fun info : ReparentingInfo => info.requestId == existing.requestId) ∘
        finished.resolved = fun info => info.requestId == existing.requestId := by
      funext info
      rw [Function.comp_apply, finished.requestId_resolved]
    rw [found]
    cases taken : finished.taken.find? (fun info => info.requestId == existing.requestId) with
    | none =>
      refine ⟨fun _ info member same => ?_, fun _ => ⟨settled, rfl⟩⟩
      exact absurd (beq_iff_eq.mpr same) (List.find?_eq_none.mp taken info member)
    | some info =>
      have member := List.mem_of_find?_eq_some taken
      have same : info.requestId = existing.requestId := by
        have matched := List.find?_some taken
        exact eq_of_beq matched
      refine Iff.trans (finished.resolved_iff info existing.guessedTraceId) ?_
      refine ⟨fun agrees another present alike => ?_, fun each => each info member same⟩
      rw [eq_of_distinct separate present member (alike.trans same.symm)]
      exact agrees
  · intro existing
    cases finished.reparentingInfo.find? (fun info => info.requestId == existing.requestId) <;> rfl

/-- No entry that has a trace id loses or changes it in the step. -/
def Settled (agent : Agent) (action : Action) : Prop :=
  Stays agent.infos (agent.step env action).infos

/-- If the step writes a copy back, the copy agrees with the entries. -/
def WritesAgree (agent : Agent) : Action -> Prop
  | .finish request true => forall finished, agent.requests request = some finished ->
      Agrees finished agent.infos
  | _ => True

theorem stays_unchanged {later : Agent} (sound : agent.Sound) (same : later.infos = agent.infos) :
    Stays agent.infos later.infos := by
  apply stays_of_kept sound.entries
  intro info member
  exact Or.inl (same ▸ member)

/-- A command of the processor changes no entry that it leaves. -/
theorem stays_command (sound : agent.Sound) (input : Processor.Input)
    (other : input.command.updatesReparenting = false) :
    Stays agent.infos (agent.step env (.command input other)).infos := by
  apply stays_of_kept sound.entries
  intro later member
  rw [infos_command] at member
  rcases Gauge.infos_after env input.ambient (agent.processor.errorsOf env input.command)
    agent.processor.gauge other with same | ⟨requestId, spanId, parentId, same⟩ |
      ⟨requestId, same⟩
  · rw [same] at member
    exact Or.inl member
  · rw [same] at member
    rcases Gauge.mem_addInfo member with old | ⟨new, unlisted⟩
    · exact Or.inl old
    · rw [new]
      exact Or.inr unlisted
  · rw [same] at member
    exact Or.inl (List.mem_of_mem_filter member)

theorem settled_iff (sound : agent.Sound) (action : Action) :
    agent.Settled env action <-> agent.WritesAgree action := by
  have always : forall {claim : Prop}, claim -> (claim <-> True) :=
    fun holds => ⟨fun _ => trivial, fun _ => holds⟩
  rw [Settled]
  cases action with
  | command input other => exact always (stays_command env sound input other)
  | begin request answered =>
    exact always (stays_unchanged sound (infos_begin env agent request answered))
  | span => exact always (stays_unchanged sound rfl)
  | finish request delivered =>
    cases running : agent.requests request with
    | none =>
      have idle : agent.step env (.finish request delivered) = agent := by
        rw [step]
        simp only [running]
      have stays := stays_unchanged sound (congrArg infos idle)
      cases delivered with
      | false => exact always stays
      | true => exact ⟨fun _ _ found => (nomatch running.symm.trans found), fun _ => stays⟩
    | some finished =>
      cases delivered with
      | false =>
        apply always
        apply stays_unchanged sound
        rw [step]
        simp only [running]
        rfl
      | true =>
        rw [stays_finish_iff env sound running]
        refine ⟨fun agrees other found => ?_, fun each => each finished running⟩
        rw [<- Option.some.inj (running.symm.trans found)]
        exact agrees

/-- However the requests interleave with each other and with the commands of the
processor, an entry that has a trace id keeps it exactly if every copy that is
written back agrees with it. -/
theorem guesses_stay_iff (actions : List Action) :
    Machine.Along (step env) (Settled env) Agent.new actions <->
      Machine.Along (step env) WritesAgree Agent.new actions := by
  have stays : forall agent action, Sound agent -> Sound (agent.step env action) :=
    fun _ action sound => sound.step env action
  have agree : forall agent action, Sound agent ->
      (Settled env agent action <-> WritesAgree agent action) :=
    fun _ action sound => settled_iff env sound action
  exact Machine.along_iff_along stays agree sound_new actions

/-- The entry of a request, for which two requests guess at once. -/
def addEntry (requestId : String) : Action :=
  .command (Command.addReparenting requestId 5 0).still rfl

def spanOf (traceId : UInt64) : Span := { traceId := traceId, spanId := traceId }

/-- Both requests take the entry while it waits.  The second one to write replaces
the guess of the first. -/
theorem second_write_replaces_guess :
    let actions := [addEntry "r1", .begin 0 true, .begin 1 true,
      .span 0 (spanOf 1), .span 1 (spanOf 2), .finish 0 true]
    (actions.foldl (step (Env.plain false)) Agent.new).infos = [⟨"r1", 5, 0, 1, false⟩] ∧
      ((actions ++ [Action.finish 1 true]).foldl (step (Env.plain false)) Agent.new).infos =
        [⟨"r1", 5, 0, 2, false⟩] ∧
      ¬ Machine.Along (step (Env.plain false)) (Settled (Env.plain false)) Agent.new
        (actions ++ [.finish 1 true]) := by
  intro actions
  have first : (actions.foldl (step (Env.plain false)) Agent.new).infos =
      [⟨"r1", 5, 0, 1, false⟩] := by decide
  have second : ((actions ++ [Action.finish 1 true]).foldl (step (Env.plain false))
      Agent.new).infos = [⟨"r1", 5, 0, 2, false⟩] := by decide
  refine ⟨first, second, fun along => ?_⟩
  rw [List.foldl_append] at second
  have stays : Stays (actions.foldl (step (Env.plain false)) Agent.new).infos
      ([.finish 1 true].foldl (step (Env.plain false))
        (actions.foldl (step (Env.plain false)) Agent.new)).infos :=
    (Machine.along_append.mp along).2.1
  exact absurd (stays _ List.mem_cons_self rfl _ List.mem_cons_self rfl).2 (by decide)

end Agent
end Traces
end Bottlecap
