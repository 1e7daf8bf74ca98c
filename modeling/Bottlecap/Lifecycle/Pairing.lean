import Bottlecap.Lifecycle.RequestLife

namespace Bottlecap
namespace Lifecycle

open Foundations Extension

/-!
# Pairing, one command at a time

A start event meets its invocation and an end event the end of its runtime, in
two rendezvous that do not know of each other.  `Tracker.exchange` is what a
tracker holds of them, together with the events processed so far and with what is
owed of the contexts handed over.  For every command, `exchange_handle` gives the
rendezvous afterwards and the event, if any, that the command has processed, from
the state before the command alone.  Only the trace agent, when it comes back with a
context, changes what is owed.
-/

namespace Milestone

def startOf : Milestone -> Option Processed
  | started requestId event found => some ⟨requestId, event, found⟩
  | _ => none

def endOf : Milestone -> Option Processed
  | ended requestId event found => some ⟨requestId, event, found⟩
  | _ => none

/-- The context is returned to the trace agent. -/
def isReturned (requestId : String) : Milestone -> Bool
  | handedOver .updateReparenting id => id == requestId
  | _ => false

def isSent (requestId : String) : Milestone -> Bool
  | sent id => id == requestId
  | _ => false

/-- How often a context of the request was handed over, less the ones returned to the
trace agent and the ones sent. -/
def owedBy (requestId : String) (milestones : List Milestone) : Int :=
  milestones.countP (isHandedOver requestId) - milestones.countP (isReturned requestId) -
    milestones.countP (isSent requestId)

theorem owedBy_append (requestId : String) (first second : List Milestone) :
    owedBy requestId (first ++ second) = owedBy requestId first + owedBy requestId second := by
  unfold owedBy
  simp only [List.countP_append]
  omega

theorem owedBy_sent (requestId id : String) :
    owedBy requestId [sent id] = if id == requestId then -1 else 0 := by
  by_cases own : id = requestId <;> simp [own, owedBy, isHandedOver, isReturned, isSent]

end Milestone

/-- The trace agent comes back with a context of the request. -/
def Command.sendsFor (requestId : String) : Command -> Bool
  | sendCtxSpans context => context.requestId == requestId
  | _ => false

structure Exchange where
  starts : Meeting
  ends : Meeting
  started : List Processed
  ended : List Processed
  owed : String -> Int

namespace Tracker

variable (env : Env) (ambient : Ambient) (tracker : Tracker)

def started : List Processed := tracker.log.filterMap Milestone.startOf

def ended : List Processed := tracker.log.filterMap Milestone.endOf

def owed (requestId : String) : Int := Milestone.owedBy requestId tracker.log

def exchange : Exchange :=
  ⟨tracker.starts, tracker.ends, tracker.started, tracker.ended, tracker.owed⟩

/-- The whole exchange after a command. -/
def exchangeAfter (command : Command) : Exchange where
  starts := tracker.startsAfter env command
  ends := tracker.endsAfter env command
  started := tracker.started ++ (tracker.startProcessed env command).toList
  ended := tracker.ended ++ (tracker.endProcessed env command).toList
  owed := fun requestId =>
    if command.sendsFor requestId then tracker.owed requestId - 1 else tracker.owed requestId

/-! ## The operations -/

theorem exchange_log (milestones : List Milestone) :
    ({ tracker with log := tracker.log ++ milestones } : Tracker).exchange =
      { tracker.exchange with
        started := tracker.started ++ milestones.filterMap Milestone.startOf
        ended := tracker.ended ++ milestones.filterMap Milestone.endOf
        owed := fun requestId => tracker.owed requestId + Milestone.owedBy requestId milestones } := by
  unfold exchange started ended owed
  simp only [List.filterMap_append, Milestone.owedBy_append]

variable (requestId : String)

theorem exchange_handOver (path : SendPath) (ready : Entry -> Bool) :
    ({ tracker with log := tracker.log ++ tracker.handOver path requestId ready } :
      Tracker).exchange = tracker.exchange := by
  unfold handOver
  split
  · have even : forall other, Milestone.owedBy other (milestonesOf path requestId) = 0 := by
      intro other
      cases path <;> simp [milestonesOf, Milestone.owedBy, List.countP_cons,
        Milestone.isHandedOver, Milestone.isReturned, Milestone.isSent]
    refine (exchange_log tracker _).trans ?_
    simp only [even, add_zero]
    cases path <;> simp only [milestonesOf, List.filterMap_cons, Milestone.startOf,
      Milestone.endOf, List.filterMap_nil, List.append_nil] <;> rfl
  · rw [List.append_nil]

variable (event : UniversalInstrumentationData)

theorem exchange_processStart :
    (tracker.processStart env requestId event).exchange =
      { tracker.exchange with
        started := tracker.started ++ [⟨requestId, event, (tracker.find requestId).isSome⟩] } := by
  rw [processStart_eq]
  refine (exchange_log tracker _).trans ?_
  have even : forall other, Milestone.owedBy other
      [.started requestId event (tracker.find requestId).isSome] = 0 := fun _ => rfl
  simp only [List.filterMap_cons, Milestone.endOf, List.filterMap_nil, List.append_nil, even,
    add_zero]
  rfl

theorem exchange_processEnd :
    (tracker.processEnd requestId event).exchange =
      { tracker.exchange with
        ended := tracker.ended ++ [⟨requestId, event, (tracker.find requestId).isSome⟩] } := by
  rw [processEnd_eq]
  refine (exchange_log tracker _).trans ?_
  have even : forall other, Milestone.owedBy other
      [.ended requestId event (tracker.find requestId).isSome] = 0 := fun _ => rfl
  simp only [List.filterMap_cons, Milestone.startOf, List.filterMap_nil, List.append_nil, even,
    add_zero]
  rfl

theorem exchange_settle (status : Status) :
    (tracker.settle ambient requestId status).exchange = tracker.exchange := by
  rw [settle_eq]
  exact exchange_handOver tracker requestId _ _

theorem exchange_reparent (info : ReparentingInfo) :
    (tracker.reparent info).exchange = tracker.exchange := by
  rw [reparent_eq]
  exact exchange_handOver tracker info.requestId _ _

theorem exchange_enter :
    (tracker.enter env requestId).exchange = tracker.exchange := by
  unfold enter
  split
  · simp only
    split <;> rfl
  · rfl

/-- An invocation has a context when its start event is looked for. -/
theorem find_enter :
    ((tracker.enter env requestId).find requestId).isSome = true := by
  have inserted : forall kept : List Entry,
      ((kept ++ [({ requestId := requestId } : Entry)]).find? (Entry.named requestId)).isSome =
        true := by
    intro kept
    apply List.find?_isSome.mpr
    exact ⟨_, List.mem_append_right kept List.mem_cons_self, beq_self_eq_true requestId⟩
  unfold enter
  split
  · simp only
    split
    · rename_i blank
      rcases Option.isSome_iff_exists.mp blank with ⟨entry, first⟩
      apply List.find?_isSome.mpr
      exact ⟨_, update_mem_modifyFirst first, beq_self_eq_true requestId⟩
    · exact inserted _
  · exact inserted _

theorem exchange_invoke :
    (tracker.invoke env requestId).exchange =
      tracker.exchangeAfter env (.invokeEvent requestId) := by
  have entered := exchange_enter env tracker requestId
  have buffered := find_enter env tracker requestId
  unfold invoke pairStart
  generalize tracker.enter env requestId = current at entered buffered ⊢
  have starts : current.starts = tracker.starts := congrArg Exchange.starts entered
  unfold exchangeAfter startsAfter endsAfter startProcessed endProcessed
  simp only [starts, Option.toList_none, List.append_nil]
  rcases tracker.starts.opens (!env.isManagedInstanceMode) requestId with ⟨taken, left⟩
  cases taken with
  | none =>
    simp only [Option.map_none, Option.toList_none, List.append_nil]
    exact congrArg (fun exchange : Exchange => { exchange with starts := left }) entered
  | some event =>
    have found : ({ current with starts := left }.find requestId).isSome = true := buffered
    refine (exchange_processStart env { current with starts := left } requestId event).trans ?_
    rw [found]
    exact congrArg (fun exchange : Exchange => { exchange with
      starts := left
      started := exchange.started ++ [(⟨requestId, event, true⟩ : Processed)] }) entered

theorem exchange_runtimeDone (metrics : RuntimeDoneMetrics) (status : Status)
    (errorType : Option String) (timestamp : Int) :
    (tracker.runtimeDone env ambient requestId status).exchange = tracker.exchangeAfter env
      (.platformRuntimeDone requestId metrics status errorType timestamp) := by
  unfold runtimeDone pairEnd exchangeAfter startsAfter endsAfter startProcessed endProcessed
  rw [exchange_settle]
  simp only [Option.toList_none, List.append_nil]
  cases (tracker.ends.opens (!env.isManagedInstanceMode) requestId).1 with
  | none =>
    simp only [Option.map_none, Option.toList_none, List.append_nil]
    rfl
  | some event => exact exchange_processEnd _ requestId event

/-- A command that pairs nothing. -/
theorem exchange_idle (command : Command) (starts : tracker.startsAfter env command = tracker.starts)
    (ends : tracker.endsAfter env command = tracker.ends)
    (started : tracker.startProcessed env command = none)
    (ended : tracker.endProcessed env command = none)
    (owed : forall id, command.sendsFor id = false) :
    tracker.exchangeAfter env command = tracker.exchange := by
  unfold exchangeAfter exchange
  rw [starts, ends, started, ended, Option.toList_none, List.append_nil, List.append_nil]
  simp only [owed]
  rfl

theorem exchange_start (requestId : Option String) :
    (tracker.start env event requestId).exchange =
      tracker.exchangeAfter env (.universalInstrumentationStart event requestId) := by
  rw [start_eq]
  unfold exchangeAfter endsAfter startProcessed endProcessed
  simp only [Option.toList_none, List.append_nil]
  cases tracker.paired env (.universalInstrumentationStart event requestId) with
  | none =>
    simp only [Option.map_none, Option.toList_none, List.append_nil]
    rfl
  | some target => exact exchange_processStart env _ target event

theorem exchange_finish (requestId : Option String) :
    (tracker.finish event requestId).exchange =
      tracker.exchangeAfter env (.universalInstrumentationEnd event requestId) := by
  rw [finish_eq env]
  unfold exchangeAfter startsAfter startProcessed endProcessed
  simp only [Option.toList_none, List.append_nil]
  cases tracker.paired env (.universalInstrumentationEnd event requestId) with
  | none =>
    simp only [Option.map_none, Option.toList_none, List.append_nil]
    rfl
  | some target => exact exchange_processEnd _ target event

/-- Every command acts on the two rendezvous as described. -/
theorem exchange_handle (command : Command) :
    (tracker.handle env ambient command).exchange = tracker.exchangeAfter env command := by
  have idle := fun starts ends started ended owed =>
    (exchange_idle env tracker command starts ends started ended owed).symm
  cases command with
  | invokeEvent requestId => exact exchange_invoke env tracker requestId
  | platformInitStart =>
    refine Eq.trans ?_ (idle rfl rfl rfl rfl (fun _ => rfl))
    simp only [handle]
    split <;> rfl
  | platformStart =>
    by_cases managed : env.isManagedInstanceMode = true
    · simp only [handle, if_pos managed]
      rw [exchange_invoke]
      simp only [exchangeAfter, startsAfter, endsAfter, startProcessed, endProcessed, managed,
        Bool.not_true, if_true, Command.sendsFor, Bool.false_eq_true, if_false]
    · refine Eq.trans ?_ (idle (if_neg managed) rfl (if_neg managed) rfl (fun _ => rfl))
      simp only [handle, if_neg managed]
  | platformRuntimeDone requestId metrics status errorType timestamp =>
    exact exchange_runtimeDone env ambient tracker requestId metrics status errorType timestamp
  | platformReport requestId metrics timestamp status errorType =>
    have released : forall current : Tracker,
        (current.release requestId).exchange = current.exchange := fun current => rfl
    simp only [handle, report, released]
    cases metrics with
    | onDemand => exact idle rfl rfl rfl rfl (fun _ => rfl)
    | managedInstance =>
      by_cases buffered : (tracker.find requestId).isSome = true
      · simp only [if_pos buffered]
        rw [exchange_runtimeDone env ambient tracker requestId ⟨0, none⟩ status none 0]
        simp only [exchangeAfter, startsAfter, endsAfter, startProcessed, endProcessed, buffered,
          if_true, Command.sendsFor, Bool.false_eq_true, if_false]
      · refine Eq.trans ?_ (idle rfl (if_neg buffered) rfl (if_neg buffered) (fun _ => rfl))
        simp only [if_neg buffered]
  | universalInstrumentationStart event requestId => exact exchange_start env tracker event requestId
  | universalInstrumentationEnd event requestId => exact exchange_finish env tracker event requestId
  | recordDsmConsumeFromPayload requestId =>
    refine Eq.trans ?_ (idle rfl rfl rfl rfl (fun _ => rfl))
    simp only [handle, recordDsm]
    split <;> rfl
  | addReparenting =>
    refine Eq.trans ?_ (idle rfl rfl rfl rfl (fun _ => rfl))
    simp only [handle, addReparenting]
    split <;> rfl
  | updateReparenting infos =>
    refine Eq.trans ?_ (idle rfl rfl rfl rfl (fun _ => rfl))
    exact foldl_project exchange reparent (fun current info => exchange_reparent current info)
      infos tracker
  | sendCtxSpans context =>
    have owed : forall id, tracker.owed id +
        Milestone.owedBy id [Milestone.sent context.requestId] =
        if (Command.sendCtxSpans context).sendsFor id then tracker.owed id - 1
        else tracker.owed id := by
      intro id
      rw [Milestone.owedBy_sent, Command.sendsFor]
      split <;> omega
    refine (exchange_log tracker _).trans ?_
    simp only [owed, List.filterMap_cons, Milestone.startOf, Milestone.endOf, List.filterMap_nil]
    rfl
  | _ => exact idle rfl rfl rfl rfl (fun _ => rfl)

theorem starts_handle (command : Command) :
    (tracker.handle env ambient command).starts = tracker.startsAfter env command :=
  congrArg Exchange.starts (exchange_handle env ambient tracker command)

theorem ends_handle (command : Command) :
    (tracker.handle env ambient command).ends = tracker.endsAfter env command :=
  congrArg Exchange.ends (exchange_handle env ambient tracker command)

theorem started_handle (command : Command) :
    (tracker.handle env ambient command).started =
      tracker.started ++ (tracker.startProcessed env command).toList :=
  congrArg Exchange.started (exchange_handle env ambient tracker command)

theorem ended_handle (command : Command) :
    (tracker.handle env ambient command).ended =
      tracker.ended ++ (tracker.endProcessed env command).toList :=
  congrArg Exchange.ended (exchange_handle env ambient tracker command)

theorem owed_handle (command : Command) (requestId : String) :
    (tracker.handle env ambient command).owed requestId =
      if command.sendsFor requestId then tracker.owed requestId - 1 else tracker.owed requestId :=
  congrFun (congrArg Exchange.owed (exchange_handle env ambient tracker command)) requestId

theorem startsAtOnce_onDemand {env : Env} (onDemand : env.isManagedInstanceMode = false)
    (requestId : Option String) : tracker.startsAtOnce env requestId = none := by
  cases requestId with
  | none => rfl
  | some =>
    unfold startsAtOnce
    rw [Option.filter_some]
    simp only [onDemand, Bool.false_and, Bool.false_eq_true, if_false]

end Tracker

/-! ## The processor -/

namespace Effect

def startOf : Effect -> Option Processed
  | processedStart requestId event found => some ⟨requestId, event, found⟩
  | _ => none

def endOf : Effect -> Option Processed
  | processedEnd requestId event found => some ⟨requestId, event, found⟩
  | _ => none

end Effect

namespace Processor

variable (env : Env)

/-- The start events processed so far. -/
def started (processor : Processor) : List Processed := processor.effects.filterMap Effect.startOf

/-- The end events processed so far. -/
def ended (processor : Processor) : List Processed := processor.effects.filterMap Effect.endOf

theorem started_view (processor : Processor) : processor.view.started = processor.started := by
  unfold Tracker.started started view
  rw [List.filterMap_filterMap]
  congr 1
  funext effect
  cases effect with
  | sendSpans requestId => cases requestId <;> rfl
  | _ => rfl

theorem ended_view (processor : Processor) : processor.view.ended = processor.ended := by
  unfold Tracker.ended ended view
  rw [List.filterMap_filterMap]
  congr 1
  funext effect
  cases effect with
  | sendSpans requestId => cases requestId <;> rfl
  | _ => rfl

theorem started_step (processor : Processor) (input : Input) :
    (processor.step env input).started =
      processor.started ++ (processor.view.startProcessed env input.command).toList := by
  rw [<- started_view, <- started_view, view_step]
  exact Tracker.started_handle env input.ambient processor.view input.command

theorem ended_step (processor : Processor) (input : Input) :
    (processor.step env input).ended =
      processor.ended ++ (processor.view.endProcessed env input.command).toList := by
  rw [<- ended_view, <- ended_view, view_step]
  exact Tracker.ended_handle env input.ambient processor.view input.command

end Processor
end Lifecycle
end Bottlecap
