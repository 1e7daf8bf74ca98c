import Bottlecap.Lifecycle.NamedEvents

namespace Bottlecap
namespace Lifecycle

open Foundations Extension

/-!
# End events with a request id

The end of the runtime of a request is reported once, and the request has one end
event.  The platform reports the end of the runtime of an On-Demand function; for
a Managed Instance it is part of the report of the request, and is handled only if
the context is still there.

The end event is dealt with if it is processed for the context of its request, or
if it comes when there is no context and no trace of it remains.  The theorems say
exactly when that is so, for both orders.  The end of the runtime of a Managed
Instance never waits for its end event.  An end event that comes after the report
is therefore filed for good.
-/

namespace Processor

variable {env : Env} {requestId : String} {share : Share} {processed : List Processed}

theorem shows_end_new (requestId : String) :
    Processor.new.view.endDesk.Shows requestId ⟨⟨0, none⟩, []⟩ :=
  ⟨rfl, rfl⟩

/-- Commands that neither report the end of the runtime of the request nor bring an
end event for it. -/
def EndQuiet (requestId : String) (inputs : List Input) : Prop :=
  forall input, input ∈ inputs -> input.command.namesEnd = true ∧
    input.command.finishes requestId = false ∧ input.command.endFor requestId = none

variable {processor : Processor} {event : UniversalInstrumentationData}

theorem shows_end_quiet {inputs : List Input} (quiet : EndQuiet requestId inputs)
    (shows : processor.view.endDesk.Shows requestId share) :
    (processor.run env inputs).view.endDesk.Shows requestId share := by
  apply foldl_invariant (fun current : Processor => current.view.endDesk.Shows requestId share)
  · intro current input member currently
    rcases quiet input member with ⟨named, unfinished, unended⟩
    rw [view_step]
    exact currently.serves (Tracker.serves_end env input.ambient current.view named)
      (Command.endSubject_ne unfinished unended)
  · exact shows

/-- The end of the runtime is reported before the end event comes.  It waits for it
in On-Demand mode. -/
theorem shows_finished_unfiled {input : Input} (finishes : input.command.finishes requestId = true)
    (shows : processor.view.endDesk.Shows requestId ⟨⟨0, none⟩, processed⟩) :
    (processor.step env input).view.endDesk.Shows requestId
      ⟨⟨if env.isManagedInstanceMode = false ∧
        processor.view.handlesEnd requestId input.command = true then 1 else 0, none⟩,
        processed⟩ := by
  rw [view_step, Tracker.endDesk_finishes env input.ambient processor.view finishes]
  by_cases handles : processor.view.handlesEnd requestId input.command = true
  · have opened := shows.opens_unfiled (!env.isManagedInstanceMode)
      (processor.view.find requestId).isSome
    simp only [Nat.zero_add, Bool.not_eq_true'] at opened
    simp only [handles, and_true]
    exact opened
  · rw [if_neg handles]
    simp only [handles, Bool.false_eq_true, and_false]
    exact shows

/-- It takes the end event that came before. -/
theorem shows_finished_filed {input : Input} (finishes : input.command.finishes requestId = true)
    (handles : processor.view.handlesEnd requestId input.command = true)
    (shows : processor.view.endDesk.Shows requestId ⟨⟨0, some event⟩, processed⟩) :
    (processor.step env input).view.endDesk.Shows requestId ⟨⟨0, none⟩,
      processed ++ [⟨requestId, event, (processor.contextBuffer.get requestId).isSome⟩]⟩ := by
  rw [view_step, get_isSome, Tracker.endDesk_finishes env input.ambient processor.view finishes,
    if_pos handles]
  exact shows.opens_filed _ _

theorem shows_finished_unhandled {input : Input}
    (finishes : input.command.finishes requestId = true)
    (unhandled : ¬ processor.view.handlesEnd requestId input.command = true)
    (shows : processor.view.endDesk.Shows requestId share) :
    (processor.step env input).view.endDesk.Shows requestId share := by
  rw [view_step, Tracker.endDesk_finishes env input.ambient processor.view finishes, if_neg unhandled]
  exact shows

/-- An end event for which the end of the runtime waits. -/
theorem shows_ended_waiting (event : UniversalInstrumentationData) (ambient : Ambient)
    (shows : processor.view.endDesk.Shows requestId ⟨⟨1, none⟩, processed⟩) :
    (processor.step env
        ⟨ambient, .universalInstrumentationEnd event (some requestId)⟩).view.endDesk.Shows
      requestId ⟨⟨0, none⟩,
        processed ++ [⟨requestId, event, (processor.contextBuffer.get requestId).isSome⟩]⟩ := by
  rw [view_step, get_isSome, Tracker.endDesk_end]
  exact shows.arrives_waiting event (fun id => (processor.view.find id).isSome)

theorem shows_ended_unwaited (event : UniversalInstrumentationData) (ambient : Ambient)
    (shows : processor.view.endDesk.Shows requestId ⟨⟨0, none⟩, processed⟩) :
    (processor.step env
        ⟨ambient, .universalInstrumentationEnd event (some requestId)⟩).view.endDesk.Shows
      requestId ⟨⟨0, some event⟩, processed⟩ := by
  rw [view_step, Tracker.endDesk_end]
  exact shows.arrives_unwaited event _

/-- The end event was processed once, for the context of its request, or it came
when there was no context and nothing is left of it. -/
def DealtWith (requestId : String) (event : UniversalInstrumentationData)
    (arrival final : Processor) : Prop :=
  final.ended.filter (Processed.isFor requestId) = [⟨requestId, event, true⟩] ∨
    arrival.contextBuffer.get requestId = none ∧
      (forall processed, processed ∈ final.ended -> processed.isFor requestId = true ->
        processed.found = false) ∧
      requestId ∉ final.contextBuffer.universalInstrumentationEndEventsWithId

theorem dealtWith_of_processed {found : Bool} {final : Processor} (arrival : Processor)
    (shows : final.view.endDesk.Shows requestId ⟨⟨0, none⟩, [⟨requestId, event, found⟩]⟩) :
    DealtWith requestId event arrival final <->
      found = true ∨ arrival.contextBuffer.get requestId = none := by
  have ended : final.ended.filter (Processed.isFor requestId) = [⟨requestId, event, found⟩] := by
    rw [<- ended_view]
    exact shows.processed_eq
  constructor
  · intro dealt
    rcases dealt with processed | ⟨missing, _, _⟩
    · rw [ended] at processed
      cases processed
      exact Or.inl rfl
    · exact Or.inr missing
  · intro either
    cases found with
    | true => exact Or.inl ended
    | false =>
      rcases either with impossible | missing
      · cases impossible
      · refine Or.inr ⟨missing, ?_, ?_⟩
        · intro processed member own
          have listed := List.mem_filter.mpr ⟨member, own⟩
          rw [ended] at listed
          rw [List.mem_singleton.mp listed]
        · have unfiled : final.view.ends.keyed.lookup requestId = none :=
            congrArg Rendezvous.Slot.filed shows.slot
          exact AList.lookup_eq_none.mp unfiled

theorem not_dealtWith_of_filed {final : Processor} (arrival : Processor)
    (shows : final.view.endDesk.Shows requestId ⟨⟨0, some event⟩, []⟩) :
    ¬ DealtWith requestId event arrival final := by
  have ended : final.ended.filter (Processed.isFor requestId) = [] := by
    rw [<- ended_view]
    exact shows.processed_eq
  rintro (processed | ⟨_, _, unfiled⟩)
  · rw [ended] at processed
    cases processed
  · have filed : final.view.ends.keyed.lookup requestId = some event :=
      congrArg Rendezvous.Slot.filed shows.slot
    refine unfiled (AList.lookup_isSome.mp ?_)
    exact Option.isSome_iff_exists.mpr ⟨event, filed⟩

/-- The end of the runtime comes first. -/
theorem dealtWith_finished_first {before between after : List Input} {finishing : Input}
    (event : UniversalInstrumentationData) (ambient : Ambient)
    (quietBefore : EndQuiet requestId before) (quietBetween : EndQuiet requestId between)
    (quietAfter : EndQuiet requestId after)
    (finishes : finishing.command.finishes requestId = true) :
    DealtWith requestId event (Processor.new.run env (before ++ finishing :: between))
        (Processor.new.run env (before ++ finishing :: between ++
          ⟨ambient, .universalInstrumentationEnd event (some requestId)⟩ :: after)) <->
      env.isManagedInstanceMode = false ∧ (Processor.new.run env before).view.handlesEnd requestId
        finishing.command = true := by
  have idle : (Processor.new.run env before).view.endDesk.Shows requestId ⟨⟨0, none⟩, []⟩ :=
    shows_end_quiet quietBefore (shows_end_new requestId)
  have arrival : (Processor.new.run env (before ++ finishing :: between)).view.endDesk.Shows
      requestId ⟨⟨if env.isManagedInstanceMode = false ∧ (Processor.new.run env
        before).view.handlesEnd requestId finishing.command = true then 1 else 0, none⟩, []⟩ := by
    rw [run_append_cons]
    exact shows_end_quiet quietBetween (shows_finished_unfiled finishes idle)
  rw [run_append_cons env Processor.new (before ++ finishing :: between)]
  by_cases waits : env.isManagedInstanceMode = false ∧ (Processor.new.run env
      before).view.handlesEnd requestId finishing.command = true
  · rw [if_pos waits] at arrival
    rw [dealtWith_of_processed _ (shows_end_quiet quietAfter
      (shows_ended_waiting event ambient arrival))]
    refine ⟨fun _ => waits, fun _ => ?_⟩
    rw [<- Option.not_isSome_iff_eq_none]
    exact Classical.em _
  · rw [if_neg waits] at arrival
    refine ⟨fun dealt => ?_, fun holds => absurd holds waits⟩
    exact absurd dealt (not_dealtWith_of_filed _ (shows_end_quiet quietAfter
      (shows_ended_unwaited event ambient arrival)))

/-- The end event comes first. -/
theorem dealtWith_ended_first {before between after : List Input} {finishing : Input}
    (event : UniversalInstrumentationData) (ambient : Ambient)
    (quietBefore : EndQuiet requestId before) (quietBetween : EndQuiet requestId between)
    (quietAfter : EndQuiet requestId after)
    (finishes : finishing.command.finishes requestId = true) :
    let ending : Input :=
      ⟨ambient, .universalInstrumentationEnd event (some requestId)⟩
    let finished := Processor.new.run env (before ++ ending :: between)
    DealtWith requestId event (Processor.new.run env before)
        (Processor.new.run env (before ++ ending :: between ++ finishing :: after)) <->
      finished.view.handlesEnd requestId finishing.command = true ∧
        ((finished.contextBuffer.get requestId).isSome = true ∨
          (Processor.new.run env before).contextBuffer.get requestId = none) := by
  intro ending finished
  have filed : finished.view.endDesk.Shows requestId ⟨⟨0, some event⟩, []⟩ := by
    have idle : (Processor.new.run env before).view.endDesk.Shows requestId ⟨⟨0, none⟩, []⟩ :=
      shows_end_quiet quietBefore (shows_end_new requestId)
    unfold finished
    rw [run_append_cons]
    exact shows_end_quiet quietBetween (shows_ended_unwaited event ambient idle)
  rw [run_append_cons env Processor.new (before ++ ending :: between)]
  by_cases handles : finished.view.handlesEnd requestId finishing.command = true
  · rw [dealtWith_of_processed _ (shows_end_quiet quietAfter
      (shows_finished_filed finishes handles filed))]
    exact ⟨fun either => ⟨handles, either⟩, fun both => both.2⟩
  · refine ⟨fun dealt => ?_, fun both => absurd both.1 handles⟩
    exact absurd dealt (not_dealtWith_of_filed _ (shows_end_quiet quietAfter
      (shows_finished_unhandled finishes handles filed)))

/-- If all end events carry a request id, the end of the runtime of a request is
reported once and it has one end event, then the end event is dealt with exactly in
these cases.  If the end of the runtime comes first, it is the one of an On-Demand
function.  If the end event comes first, the context is still there when the end of
the runtime is reported, or was not there any more when the end event came. -/
theorem end_dealtWith_iff (requestId : String) (event : UniversalInstrumentationData)
    (ambient : Ambient) (before between after : List Input) (finishing : Input)
    (quiet : EndQuiet requestId (before ++ between ++ after))
    (finishes : finishing.command.finishes requestId = true) :
    let ending : Input := ⟨ambient, .universalInstrumentationEnd event (some requestId)⟩
    let reached := Processor.new.run env before
    let finished := Processor.new.run env (before ++ finishing :: between)
    let ended := Processor.new.run env (before ++ ending :: between)
    (DealtWith requestId event finished
        (Processor.new.run env (before ++ finishing :: between ++ ending :: after)) <->
      env.isManagedInstanceMode = false ∧
        reached.view.handlesEnd requestId finishing.command = true) ∧
    (DealtWith requestId event reached
        (Processor.new.run env (before ++ ending :: between ++ finishing :: after)) <->
      ended.view.handlesEnd requestId finishing.command = true ∧
        ((ended.contextBuffer.get requestId).isSome = true ∨
          reached.contextBuffer.get requestId = none)) := by
  rcases List.forall_mem_append.mp quiet with ⟨quietEarly, quietAfter⟩
  rcases List.forall_mem_append.mp quietEarly with ⟨quietBefore, quietBetween⟩
  exact ⟨dealtWith_finished_first event ambient quietBefore quietBetween quietAfter finishes,
    dealtWith_ended_first event ambient quietBefore quietBetween quietAfter finishes⟩

/-- The end event of an On-Demand function comes after the end of its runtime. -/
theorem end_dealtWith_iff_onDemand :
    DealtWith "r1" ⟨∅, .null⟩
      (Processor.new.run (Env.plain false) [(Command.invokeEvent "r1").still,
        (Command.runtimeDoneOf "r1" .success).still, (Command.invokeEvent "r2").still])
      (Processor.new.run (Env.plain false) [(Command.invokeEvent "r1").still,
        (Command.runtimeDoneOf "r1" .success).still, (Command.invokeEvent "r2").still,
        (Command.universalInstrumentationEnd ⟨∅, .null⟩ (some "r1")).still]) := by
  have quiet : EndQuiet "r1" [(Command.invokeEvent "r1").still, (Command.invokeEvent "r2").still] :=
    List.forall_mem_cons.mpr ⟨⟨rfl, rfl, rfl⟩, List.forall_mem_singleton.mpr ⟨rfl, rfl, rfl⟩⟩
  exact (end_dealtWith_iff "r1" ⟨∅, .null⟩ Ambient.still [(Command.invokeEvent "r1").still]
    [(Command.invokeEvent "r2").still] [] (Command.runtimeDoneOf "r1" .success).still quiet
    rfl).1.mpr ⟨rfl, rfl⟩

/-- The end event of a Managed Instance comes after the report, and stays filed. -/
theorem end_event_filed_after_report :
    ¬ forall (env : Env) (requestId : String) (event : UniversalInstrumentationData)
      (ambient : Ambient) (before between after : List Input) (finishing : Input),
      EndQuiet requestId (before ++ between ++ after) ->
      finishing.command.finishes requestId = true ->
      DealtWith requestId event (Processor.new.run env (before ++ finishing :: between))
        (Processor.new.run env (before ++ finishing :: between ++
          ⟨ambient, .universalInstrumentationEnd event (some requestId)⟩ :: after)) := by
  intro always
  have quiet : EndQuiet "r1" [(Command.platformStart "r1" 0).still] :=
    List.forall_mem_singleton.mpr ⟨rfl, rfl, rfl⟩
  rcases always (Env.plain true) "r1" ⟨∅, .null⟩ Ambient.still
    [(Command.platformStart "r1" 0).still] [] [] (Command.managedReportOf "r1").still quiet rfl with
    processed | ⟨_, _, unfiled⟩
  · exact absurd (congrArg List.length processed) (by decide)
  · exact absurd unfiled (by decide)

end Processor
end Lifecycle
end Bottlecap
