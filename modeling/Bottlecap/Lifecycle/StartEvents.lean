import Bottlecap.Lifecycle.NamedEvents

namespace Bottlecap
namespace Lifecycle

open Foundations Extension

/-!
# Start events with a request id

A request is invoked once and has one start event.  In either order, and whatever
happens in between to other requests, the start event is processed once, for the
context of its request.  An On-Demand function files the start event if it comes
first and the invocation if it comes second.  A Managed Instance never files
invocations, and looks for the context instead.

A second start event of the same request is not processed by an On-Demand
function: nothing waits for it any more.
-/

namespace Processor

variable {env : Env} {requestId : String} {share : Share} {processed : List Processed}

variable {processor : Processor} {event : UniversalInstrumentationData}

theorem shows_start_new (requestId : String) :
    Processor.new.view.startDesk.Shows requestId ⟨⟨0, none⟩, []⟩ :=
  ⟨rfl, rfl⟩

/-- Commands that neither invoke the request nor bring a start event for it. -/
def StartQuiet (env : Env) (requestId : String) (inputs : List Input) : Prop :=
  forall input, input ∈ inputs -> input.command.namesStart = true ∧
    input.command.invokes env requestId = false ∧ input.command.startFor requestId = none

theorem shows_start_quiet {inputs : List Input} (quiet : StartQuiet env requestId inputs)
    (shows : processor.view.startDesk.Shows requestId share) :
    (processor.run env inputs).view.startDesk.Shows requestId share := by
  apply foldl_invariant
    (fun current : Processor => current.view.startDesk.Shows requestId share)
  · intro current input member currently
    rcases quiet input member with ⟨named, uninvoked, unstarted⟩
    rw [view_step]
    exact currently.serves (Tracker.serves_start env input.ambient current.view named)
      (Command.startSubject_ne uninvoked unstarted)
  · exact shows

theorem shows_invoked_filed {input : Input} {waiting : Nat}
    (invokes : input.command.invokes env requestId = true)
    (shows : processor.view.startDesk.Shows requestId ⟨⟨waiting, some event⟩, processed⟩) :
    (processor.step env input).view.startDesk.Shows requestId
      ⟨⟨waiting, none⟩, processed ++ [⟨requestId, event, true⟩]⟩ := by
  rw [view_step, Tracker.startDesk_invokes env input.ambient processor.view invokes]
  exact shows.opens_filed _ _

theorem shows_invoked_unfiled {input : Input} {waiting : Nat}
    (invokes : input.command.invokes env requestId = true)
    (shows : processor.view.startDesk.Shows requestId ⟨⟨waiting, none⟩, processed⟩) :
    (processor.step env input).view.startDesk.Shows requestId
      ⟨⟨waiting + if (!env.isManagedInstanceMode) = true then 1 else 0, none⟩, processed⟩ := by
  rw [view_step, Tracker.startDesk_invokes env input.ambient processor.view invokes]
  exact shows.opens_unfiled _ _

/-- The start event of a request that was invoked and still has its context. -/
theorem shows_started_invoked (event : UniversalInstrumentationData) (ambient : Ambient)
    (buffered : (processor.contextBuffer.get requestId).isSome = true)
    (shows : processor.view.startDesk.Shows requestId
      ⟨⟨if (!env.isManagedInstanceMode) = true then 1 else 0, none⟩, processed⟩) :
    (processor.step env
        ⟨ambient, .universalInstrumentationStart event (some requestId)⟩).view.startDesk.Shows
      requestId ⟨⟨0, none⟩, processed ++ [⟨requestId, event, true⟩]⟩ := by
  rw [get_isSome] at buffered
  rw [view_step]
  simp only [Tracker.startDesk_start, buffered, and_true]
  by_cases managed : env.isManagedInstanceMode = true
  · simp only [managed, Bool.not_true, Bool.false_eq_true, if_false] at shows
    rw [if_pos managed]
    exact shows.process event true
  · simp only [managed, Bool.not_false, if_true] at shows
    have met := shows.arrives_waiting event (fun id => (processor.view.find id).isSome)
    simp only [buffered] at met
    rw [if_neg managed]
    exact met

/-- The start event of a request that was not invoked yet is processed at once, or
filed. -/
theorem shows_started_uninvoked (env : Env) (processor : Processor)
    (event : UniversalInstrumentationData)
    (ambient : Ambient)
    (shows : processor.view.startDesk.Shows requestId ⟨⟨0, none⟩, processed⟩) :
    let started := processor.step env
      ⟨ambient, .universalInstrumentationStart event (some requestId)⟩
    (env.isManagedInstanceMode = true ∧ started.view.startDesk.Shows requestId
        ⟨⟨0, none⟩, processed ++ [⟨requestId, event, true⟩]⟩) ∨
      started.view.startDesk.Shows requestId ⟨⟨0, some event⟩, processed⟩ := by
  intro started
  have view : started.view.startDesk = _ :=
    congrArg Tracker.startDesk (view_step env processor _)
  rw [view]
  rw [Tracker.startDesk_start]
  split
  · rename_i atOnce
    exact Or.inl ⟨atOnce.1, shows.process event true⟩
  · exact Or.inr (shows.arrives_unwaited event _)

theorem command_of_startFor {command : Command} (starts : command.startFor requestId = some event) :
    command = .universalInstrumentationStart event (some requestId) := by
  cases command with
  | universalInstrumentationStart _ id =>
    by_cases own : id = some requestId
    · simp only [Command.startFor, own, if_true] at starts
      rw [own, Option.some.inj starts]
    · simp only [Command.startFor, own, if_false] at starts
      cases starts
  | _ => cases starts

/-- The invocation comes first. -/
theorem shows_invoked_then_started {before between after : List Input} {invoking : Input}
    (ambient : Ambient) (quietBefore : StartQuiet env requestId before)
    (quietBetween : StartQuiet env requestId between) (quietAfter : StartQuiet env requestId after)
    (invokes : invoking.command.invokes env requestId = true)
    (buffered : ((Processor.new.run env (before ++ invoking :: between)).contextBuffer.get
      requestId).isSome = true) :
    (Processor.new.run env (before ++ invoking :: between ++
      ⟨ambient, .universalInstrumentationStart event (some requestId)⟩ ::
        after)).view.startDesk.Shows requestId ⟨⟨0, none⟩, [⟨requestId, event, true⟩]⟩ := by
  have invoked := shows_invoked_unfiled invokes
    (shows_start_quiet quietBefore (shows_start_new requestId))
  rw [Nat.zero_add] at invoked
  have waiting : (Processor.new.run env (before ++ invoking :: between)).view.startDesk.Shows
      requestId ⟨⟨if (!env.isManagedInstanceMode) = true then 1 else 0, none⟩, []⟩ := by
    rw [run_append_cons]
    exact shows_start_quiet quietBetween invoked
  rw [run_append_cons]
  exact shows_start_quiet quietAfter (shows_started_invoked event ambient buffered waiting)

/-- The start event comes first. -/
theorem shows_started_then_invoked {before between after : List Input} {invoking : Input}
    (ambient : Ambient) (quietBefore : StartQuiet env requestId before)
    (quietBetween : StartQuiet env requestId between) (quietAfter : StartQuiet env requestId after)
    (invokes : invoking.command.invokes env requestId = true) :
    (Processor.new.run env (before ++
      ⟨ambient, .universalInstrumentationStart event (some requestId)⟩ ::
        (between ++ invoking :: after))).view.startDesk.Shows requestId
      ⟨⟨0, none⟩, [⟨requestId, event, true⟩]⟩ := by
  have idle := shows_start_quiet quietBefore (shows_start_new requestId)
  rw [run_append_cons, run_append_cons]
  apply shows_start_quiet quietAfter
  rcases shows_started_uninvoked env _ event ambient idle with ⟨managed, done⟩ | filed
  · have invoked := shows_invoked_unfiled invokes (shows_start_quiet quietBetween done)
    simp only [managed] at invoked
    exact invoked
  · exact shows_invoked_filed invokes (shows_start_quiet quietBetween filed)

/-- If all start events carry a request id, and a request is invoked once and has
one start event, then that event is processed once, for the context of the request,
provided the context is still there if the event comes second. -/
theorem start_processed_once (requestId : String) (event : UniversalInstrumentationData)
    (inputs : List Input)
    (named : forall input, input ∈ inputs -> input.command.namesStart = true)
    (invoked : inputs.countP (fun input => input.command.invokes env requestId) = 1)
    (started : inputs.filterMap (fun input => input.command.startFor requestId) = [event])
    (buffered : forall (before after : List Input) (starting : Input),
      inputs = before ++ starting :: after ->
      starting.command.startFor requestId = some event ->
      before.countP (fun input => input.command.invokes env requestId) = 1 ->
        ((Processor.new.run env before).contextBuffer.get requestId).isSome = true) :
    (Processor.new.run env inputs).started.filter (Processed.isFor requestId) =
      [⟨requestId, event, true⟩] := by
  suffices shown : (Processor.new.run env inputs).view.startDesk.Shows requestId
      ⟨⟨0, none⟩, [⟨requestId, event, true⟩]⟩ by
    rw [<- started_view]
    exact shown.processed_eq
  rcases List.filterMap_eq_cons_iff.mp started with
    ⟨before, ⟨ambient, command⟩, after, split, unstarted, starts, rest⟩
  have present := buffered before after _ split starts
  cases command_of_startFor starts
  subst split
  have quiet : forall segment : List Input, (forall input, input ∈ segment ->
      input ∈ before ∨ input ∈ after) ->
      (forall input, input ∈ segment -> input.command.invokes env requestId = false) ->
      StartQuiet env requestId segment := by
    intro segment listed uninvoked input member
    refine ⟨?_, uninvoked input member, ?_⟩
    · rcases listed input member with early | late
      · exact named input (List.mem_append_left _ early)
      · exact named input (List.mem_append_right _ (List.mem_cons_of_mem _ late))
    · rcases listed input member with early | late
      · exact unstarted input early
      · exact List.filterMap_eq_nil_iff.mp rest input late
  have none : forall segment : List Input,
      segment.countP (fun input => input.command.invokes env requestId) = 0 ->
      forall input, input ∈ segment -> input.command.invokes env requestId = false := by
    intro segment zero input member
    exact Bool.eq_false_iff.mpr (List.countP_eq_zero.mp zero input member)
  rw [List.countP_append, List.countP_cons_of_neg Bool.false_ne_true] at invoked
  rcases Nat.add_eq_one_iff.mp invoked with ⟨never, once⟩ | ⟨once, never⟩
  · rcases exists_split_of_countP_eq_one once with ⟨between, invoking, last, split, invokes, others⟩
    subst split
    apply shows_started_then_invoked ambient _ _ _ invokes
    · exact quiet before (fun input member => Or.inl member) (none before never)
    · refine quiet between (fun input member => Or.inr (List.mem_append_left _ member)) ?_
      exact fun input member => others input (List.mem_append_left _ member)
    · refine quiet last (fun input member => Or.inr (List.mem_append_right _
        (List.mem_cons_of_mem _ member))) ?_
      exact fun input member => others input (List.mem_append_right _ member)
  · have found := present once
    rcases exists_split_of_countP_eq_one once with ⟨first, invoking, between, split, invokes, others⟩
    subst split
    apply shows_invoked_then_started ambient _ _ _ invokes found
    · refine quiet first (fun input member => Or.inl (List.mem_append_left _ member)) ?_
      exact fun input member => others input (List.mem_append_left _ member)
    · refine quiet between (fun input member => Or.inl (List.mem_append_right _
        (List.mem_cons_of_mem _ member))) ?_
      exact fun input member => others input (List.mem_append_right _ member)
    · exact quiet after (fun input member => Or.inr member) (none after never)

/-- A start event that carries the id of its request. -/
def startOf (requestId tag : String) : Input :=
  (Command.universalInstrumentationStart ⟨[⟨"tag", tag⟩].toAList, Value.null⟩
    (some requestId)).still

/-- The start event of the first request comes before its invocation, and all of the
second request in between. -/
theorem start_processed_once_early :
    (Processor.new.run (Env.plain false) [startOf "r1" "a", (Command.invokeEvent "r2").still,
      startOf "r2" "b", (Command.invokeEvent "r1").still]).started.filter (Processed.isFor "r1") =
      [⟨"r1", ⟨[⟨"tag", "a"⟩].toAList, .null⟩, true⟩] := by
  have later : forall input, input ∈ [(Command.invokeEvent "r2").still, startOf "r2" "b",
      (Command.invokeEvent "r1").still] -> (input.command.startFor "r1").isNone = true := by
    decide
  refine start_processed_once "r1" _ _ (by decide) (by decide) rfl ?_
  intro before after starting split starts once
  cases before with
  | nil => cases once
  | cons _ rest =>
    have member : starting ∈ rest ++ starting :: after :=
      List.mem_append_right rest List.mem_cons_self
    rw [List.cons_append] at split
    rw [<- (List.cons.inj split).2] at member
    have none := later starting member
    rw [starts] at none
    cases none

/-- The second start event of a request is filed and never processed. -/
theorem second_start_not_processed :
    ¬ forall (env : Env) (requestId : String) (inputs : List Input),
      (forall input, input ∈ inputs -> input.command.namesStart = true) ->
      inputs.countP (fun input => input.command.invokes env requestId) = 1 ->
      Machine.Along (Processor.step env) (fun processor input =>
        (input.command.startFor requestId).isSome = true ->
          (processor.contextBuffer.get requestId).isSome = true) Processor.new inputs ->
      (((Processor.new.run env inputs).started.filter (Processed.isFor requestId)).map
        Processed.event).Perm
          (inputs.filterMap (fun input => input.command.startFor requestId)) := by
  intro always
  have once := always (Env.plain false) "r1"
    [(Command.invokeEvent "r1").still, startOf "r1" "a", startOf "r1" "b"] (by decide) (by decide)
    ⟨fun starts => absurd starts (by decide), fun _ => by decide, fun _ => by decide, trivial⟩
  exact absurd once.length_eq (by decide)

end Processor
end Lifecycle
end Bottlecap
