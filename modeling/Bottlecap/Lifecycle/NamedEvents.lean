import Bottlecap.Lifecycle.Pairing

namespace Bottlecap
namespace Lifecycle

open Foundations Extension

/-!
# Events that carry a request id

If all the events of a kind carry a request id, nothing is ever queued without a
name, and each request meets its event by itself: whatever other requests do, its
share of the rendezvous and of the processed events stays the same.  What is left
is one invocation and one start event, or one end of the runtime and one end
event, in either order.
-/

def Processed.isFor (requestId : String) (processed : Processed) : Bool :=
  processed.requestId == requestId

/-- One of the two rendezvous, with the events processed there. -/
structure Desk where
  meeting : Meeting
  processed : List Processed

/-- What a request sees of a desk. -/
structure Share where
  slot : Rendezvous.Slot UniversalInstrumentationData
  processed : List Processed

namespace Desk

variable (desk : Desk)

def share (requestId : String) : Share :=
  ⟨desk.meeting.slot requestId, desk.processed.filter (Processed.isFor requestId)⟩

def opens (inOrder : Bool) (requestId : String) (found : Bool) : Desk :=
  ⟨(desk.meeting.opens inOrder requestId).2, desk.processed ++
    ((desk.meeting.opens inOrder requestId).1.map (fun event => ⟨requestId, event, found⟩)).toList⟩

def arrives (requestId : String) (event : UniversalInstrumentationData)
    (found : String -> Bool) : Desk :=
  ⟨(desk.meeting.arrives (some requestId) event).2, desk.processed ++
    ((desk.meeting.arrives (some requestId) event).1.map
      (fun target => ⟨target, event, found target⟩)).toList⟩

def process (processed : Processed) : Desk := ⟨desk.meeting, desk.processed ++ [processed]⟩

/-- The desk deals with the given request, or with none. -/
inductive Serves : Option String -> Desk -> Prop
  | idle (subject : Option String) : Serves subject desk
  | opens (inOrder : Bool) (requestId : String) (found : Bool) :
      Serves (some requestId) (desk.opens inOrder requestId found)
  | arrives (requestId : String) (event : UniversalInstrumentationData) (found : String -> Bool) :
      Serves (some requestId) (desk.arrives requestId event found)
  | process (processed : Processed) :
      Serves (some processed.requestId) (desk.process processed)

variable {desk} {requestId : String}

theorem filter_processed (desk : Desk) (requestId : String) (event : UniversalInstrumentationData)
    (found : Bool) :
    (desk.processed ++ [(⟨requestId, event, found⟩ : Processed)]).filter
        (Processed.isFor requestId) =
      (desk.share requestId).processed ++ [⟨requestId, event, found⟩] := by
  have own : Processed.isFor requestId ⟨requestId, event, found⟩ = true := beq_self_eq_true requestId
  rw [List.filter_append, List.filter_cons_of_pos own]
  rfl

theorem filter_processed_other (desk : Desk) (other : Option Processed)
    (different : forall processed, other = some processed -> processed.requestId ≠ requestId) :
    (desk.processed ++ other.toList).filter (Processed.isFor requestId) =
      (desk.share requestId).processed := by
  cases other with
  | none =>
    rw [Option.toList_none, List.append_nil]
    rfl
  | some processed =>
    have apart : ¬ processed.isFor requestId = true :=
      fun own => different processed rfl (beq_iff_eq.mp own)
    rw [List.filter_append, Option.toList_some, List.filter_cons_of_neg apart, List.filter_nil,
      List.append_nil]
    rfl

/-- A request does not notice what the desk does for others. -/
theorem Serves.share {subject : Option String} {later : Desk} (serves : desk.Serves subject later)
    (different : subject ≠ some requestId) : later.share requestId = desk.share requestId := by
  cases serves with
  | idle => rfl
  | opens _ other =>
    have apart : other ≠ requestId := fun same => different (congrArg some same)
    unfold Desk.share Desk.opens
    simp only [Rendezvous.slot_opens_other apart]
    congr 1
    apply filter_processed_other
    intro processed met
    rcases Option.map_eq_some_iff.mp met with ⟨event, _, same⟩
    exact same ▸ apart
  | arrives other =>
    have apart : other ≠ requestId := fun same => different (congrArg some same)
    unfold Desk.share Desk.arrives
    simp only [Rendezvous.slot_arrives_other apart]
    congr 1
    apply filter_processed_other
    intro processed met
    rcases Option.map_eq_some_iff.mp met with ⟨target, own, same⟩
    have named : other = target := Rendezvous.eq_of_arrives own
    exact same ▸ named ▸ apart
  | process processed =>
    unfold Desk.share Desk.process
    congr 1
    apply filter_processed_other desk (some processed)
    intro other same
    cases same
    exact fun own => different (congrArg some own)

theorem Serves.queued {subject : Option String} {later : Desk} (serves : desk.Serves subject later)
    (empty : desk.meeting.queued = []) : later.meeting.queued = [] := by
  cases serves with
  | idle | process => exact empty
  | opens inOrder other => exact Rendezvous.queued_opens empty inOrder other
  | arrives other event => exact (Rendezvous.queued_arrives other event _).trans empty

/-- Nothing is queued without a name, and the request sees this share. -/
structure Shows (requestId : String) (share : Share) (desk : Desk) : Prop where
  queued : desk.meeting.queued = []
  share : desk.share requestId = share

namespace Shows

variable {waiting : Nat} {filed : Option UniversalInstrumentationData} {processed : List Processed}

variable {share : Share}

theorem slot (shows : desk.Shows requestId share) :
    desk.meeting.slot requestId = share.slot :=
  congrArg Share.slot shows.share

theorem processed_eq (shows : desk.Shows requestId share) :
    desk.processed.filter (Processed.isFor requestId) = share.processed :=
  congrArg Share.processed shows.share

theorem serves (shows : desk.Shows requestId share) {subject : Option String} {later : Desk}
    (serves : desk.Serves subject later) (different : subject ≠ some requestId) :
    later.Shows requestId share :=
  ⟨serves.queued shows.queued, (serves.share different).trans shows.share⟩

/-- An opening takes the event filed for it. -/
theorem opens_filed {event : UniversalInstrumentationData}
    (shows : desk.Shows requestId ⟨⟨waiting, some event⟩, processed⟩) (inOrder found : Bool) :
    (desk.opens inOrder requestId found).Shows requestId
      ⟨⟨waiting, none⟩, processed ++ [⟨requestId, event, found⟩]⟩ := by
  have filed : (desk.meeting.slot requestId).filed = some event :=
    congrArg Rendezvous.Slot.filed shows.slot
  rcases Rendezvous.opens_of_filed filed inOrder with ⟨taken, slot⟩
  refine ⟨Rendezvous.queued_opens shows.queued inOrder requestId, ?_⟩
  unfold Desk.share Desk.opens
  simp only [taken, Option.map_some, Option.toList_some]
  rw [slot, shows.slot, filter_processed, shows.share]

/-- Otherwise it waits, if it may. -/
theorem opens_unfiled (shows : desk.Shows requestId ⟨⟨waiting, none⟩, processed⟩)
    (inOrder found : Bool) :
    (desk.opens inOrder requestId found).Shows requestId
      ⟨⟨waiting + if inOrder then 1 else 0, none⟩, processed⟩ := by
  have filed : (desk.meeting.slot requestId).filed = none :=
    congrArg Rendezvous.Slot.filed shows.slot
  rcases Rendezvous.opens_of_unfiled filed shows.queued inOrder with ⟨missed, slot⟩
  refine ⟨Rendezvous.queued_opens shows.queued inOrder requestId, ?_⟩
  unfold Desk.share Desk.opens
  simp only [missed, Option.map_none, Option.toList_none, List.append_nil]
  rw [slot, shows.slot, shows.processed_eq]

theorem arrives_waiting (shows : desk.Shows requestId ⟨⟨waiting + 1, filed⟩, processed⟩)
    (event : UniversalInstrumentationData) (found : String -> Bool) :
    (desk.arrives requestId event found).Shows requestId
      ⟨⟨waiting, filed⟩, processed ++ [⟨requestId, event, found requestId⟩]⟩ := by
  have waits : (desk.meeting.slot requestId).waiting ≠ 0 := by
    rw [shows.slot]
    exact Nat.succ_ne_zero waiting
  rcases Rendezvous.arrives_of_waiting waits event with ⟨met, slot⟩
  refine ⟨(Rendezvous.queued_arrives requestId event _).trans shows.queued, ?_⟩
  unfold Desk.share Desk.arrives
  simp only [met, Option.map_some, Option.toList_some]
  rw [slot, shows.slot, filter_processed, shows.share]
  rfl

theorem arrives_unwaited (shows : desk.Shows requestId ⟨⟨0, filed⟩, processed⟩)
    (event : UniversalInstrumentationData) (found : String -> Bool) :
    (desk.arrives requestId event found).Shows requestId ⟨⟨0, some event⟩, processed⟩ := by
  have waits : (desk.meeting.slot requestId).waiting = 0 :=
    congrArg Rendezvous.Slot.waiting shows.slot
  rcases Rendezvous.arrives_of_unwaited waits event with ⟨alone, slot⟩
  refine ⟨(Rendezvous.queued_arrives requestId event _).trans shows.queued, ?_⟩
  unfold Desk.share Desk.arrives
  simp only [alone, Option.map_none, Option.toList_none, List.append_nil]
  rw [slot, shows.processed_eq]

theorem process (shows : desk.Shows requestId share) (event : UniversalInstrumentationData)
    (found : Bool) :
    (desk.process ⟨requestId, event, found⟩).Shows requestId
      ⟨share.slot, share.processed ++ [⟨requestId, event, found⟩]⟩ := by
  refine ⟨shows.queued, ?_⟩
  unfold Desk.share Desk.process
  rw [shows.slot, filter_processed, shows.share]

end Shows

end Desk

/-! ## What a command is about -/

namespace Command

/-- The command starts an invocation of the request. -/
def invokes (env : Env) (requestId : String) : Command -> Bool
  | invokeEvent id => id == requestId
  | platformStart id _ => env.isManagedInstanceMode && id == requestId
  | _ => false

/-- The start event of the request that the command brings. -/
def startFor (requestId : String) : Command -> Option UniversalInstrumentationData
  | universalInstrumentationStart event id => if id = some requestId then some event else none
  | _ => none

/-- The end event of the request that the command brings. -/
def endFor (requestId : String) : Command -> Option UniversalInstrumentationData
  | universalInstrumentationEnd event id => if id = some requestId then some event else none
  | _ => none

def namesStart : Command -> Bool
  | universalInstrumentationStart _ id => id.isSome
  | _ => true

def namesEnd : Command -> Bool
  | universalInstrumentationEnd _ id => id.isSome
  | _ => true

/-- The request that the command invokes, or whose start event it brings. -/
def startSubject (env : Env) : Command -> Option String
  | invokeEvent id => some id
  | platformStart id _ => if env.isManagedInstanceMode then some id else none
  | universalInstrumentationStart _ id => id
  | _ => none

/-- The request whose runtime is over, or whose end event the command brings. -/
def endSubject : Command -> Option String
  | platformRuntimeDone id _ _ _ _ => some id
  | platformReport id (.managedInstance _) _ _ _ _ => some id
  | universalInstrumentationEnd _ id => id
  | _ => none

theorem startSubject_ne {env : Env} {requestId : String} {command : Command}
    (uninvoked : command.invokes env requestId = false)
    (unstarted : command.startFor requestId = none) :
    command.startSubject env ≠ some requestId := by
  intro same
  cases command with
  | invokeEvent => exact beq_eq_false_iff_ne.mp uninvoked (Option.some.inj same)
  | platformStart =>
    by_cases managed : env.isManagedInstanceMode = true
    · simp only [startSubject, if_pos managed] at same
      simp only [invokes, managed] at uninvoked
      exact beq_eq_false_iff_ne.mp uninvoked (Option.some.inj same)
    · simp only [startSubject, if_neg managed] at same
      cases same
  | universalInstrumentationStart _ id =>
    have own : id = some requestId := same
    simp only [startFor, own] at unstarted
    cases unstarted
  | _ => cases same

theorem endSubject_ne {requestId : String} {command : Command}
    (unfinished : command.finishes requestId = false)
    (unended : command.endFor requestId = none) : command.endSubject ≠ some requestId := by
  intro same
  cases command with
  | platformRuntimeDone =>
    exact beq_eq_false_iff_ne.mp unfinished (Option.some.inj same)
  | platformReport _ metrics =>
    cases metrics with
    | onDemand => cases same
    | managedInstance => exact beq_eq_false_iff_ne.mp unfinished (Option.some.inj same)
  | universalInstrumentationEnd _ id =>
    have own : id = some requestId := same
    simp only [endFor, own] at unended
    cases unended
  | _ => cases same

end Command

namespace Tracker

variable (env : Env) (ambient : Ambient) (tracker : Tracker) (command : Command)

def startDesk : Desk := ⟨tracker.starts, tracker.started⟩

def endDesk : Desk := ⟨tracker.ends, tracker.ended⟩

theorem startDesk_handle :
    (tracker.handle env ambient command).startDesk =
      ⟨tracker.startsAfter env command,
        tracker.started ++ (tracker.startProcessed env command).toList⟩ := by
  unfold startDesk
  rw [starts_handle, started_handle]

theorem endDesk_handle :
    (tracker.handle env ambient command).endDesk =
      ⟨tracker.endsAfter env command,
        tracker.ended ++ (tracker.endProcessed env command).toList⟩ := by
  unfold endDesk
  rw [ends_handle, ended_handle]

/-! ## Start events -/

theorem startDesk_invokes {command : Command} {requestId : String}
    (invokes : command.invokes env requestId = true) :
    (tracker.handle env ambient command).startDesk =
      tracker.startDesk.opens (!env.isManagedInstanceMode) requestId true := by
  rw [startDesk_handle]
  cases command with
  | invokeEvent =>
    cases beq_iff_eq.mp invokes
    rfl
  | platformStart =>
    rcases Bool.and_eq_true_iff.mp invokes with ⟨managed, own⟩
    cases beq_iff_eq.mp own
    simp only [startsAfter, startProcessed, managed]
    rfl
  | _ => cases invokes

/-- A start event is processed at once for a Managed Instance that has the context. -/
theorem startDesk_start (event : UniversalInstrumentationData) (requestId : String) :
    (tracker.handle env ambient
        (.universalInstrumentationStart event (some requestId))).startDesk =
      if env.isManagedInstanceMode = true ∧ (tracker.find requestId).isSome = true then
        tracker.startDesk.process ⟨requestId, event, true⟩
      else tracker.startDesk.arrives requestId event (fun id => (tracker.find id).isSome) := by
  rw [startDesk_handle]
  by_cases atOnce : env.isManagedInstanceMode = true ∧ (tracker.find requestId).isSome = true
  · have target : tracker.startsAtOnce env (some requestId) = some requestId := by
      unfold startsAtOnce
      rw [Option.filter_some, atOnce.1, atOnce.2]
      rfl
    rw [if_pos atOnce]
    simp only [startsAfter, startProcessed, paired, target, Option.some_or, Option.map_some,
      atOnce.2]
    rfl
  · have missed : tracker.startsAtOnce env (some requestId) = none := by
      unfold startsAtOnce
      rw [Option.filter_some, if_neg (fun both => atOnce (Bool.and_eq_true_iff.mp both))]
    rw [if_neg atOnce]
    simp only [startsAfter, startProcessed, paired, missed]
    rfl

theorem serves_start {command : Command} (named : command.namesStart = true) :
    tracker.startDesk.Serves (command.startSubject env)
      (tracker.handle env ambient command).startDesk := by
  cases command with
  | invokeEvent id =>
    have invokes : (Command.invokeEvent id).invokes env id = true := beq_self_eq_true id
    rw [startDesk_invokes env ambient tracker invokes]
    exact .opens _ _ _
  | platformStart id time =>
    by_cases managed : env.isManagedInstanceMode = true
    · have invokes : (Command.platformStart id time).invokes env id = true := by
        simp only [Command.invokes, managed, beq_self_eq_true, Bool.and_self]
      rw [startDesk_invokes env ambient tracker invokes]
      simp only [Command.startSubject, if_pos managed]
      exact .opens _ _ _
    · simp only [startDesk_handle, startsAfter, startProcessed, if_neg managed,
        Option.toList_none, List.append_nil]
      exact .idle _
  | universalInstrumentationStart event id =>
    cases id with
    | none => cases named
    | some id =>
      rw [startDesk_start]
      split
      · exact .process ⟨id, event, true⟩
      · exact .arrives _ _ _
  | _ =>
    simp only [startDesk_handle, startProcessed, Option.toList_none, List.append_nil]
    exact .idle _

/-! ## End events -/

/-- The end of the runtime is handled, for a report only if there is a context. -/
def handlesEnd (requestId : String) : Command -> Bool
  | .platformReport _ _ _ _ _ _ => (tracker.find requestId).isSome
  | _ => true

theorem endDesk_finishes {command : Command} {requestId : String}
    (finishes : command.finishes requestId = true) :
    (tracker.handle env ambient command).endDesk =
      if tracker.handlesEnd requestId command = true then
        tracker.endDesk.opens (!env.isManagedInstanceMode) requestId
          (tracker.find requestId).isSome
      else tracker.endDesk := by
  rw [endDesk_handle]
  cases command with
  | platformRuntimeDone =>
    cases beq_iff_eq.mp finishes
    rfl
  | platformReport _ metrics =>
    cases metrics with
    | onDemand => cases finishes
    | managedInstance =>
      cases beq_iff_eq.mp finishes
      by_cases buffered : (tracker.find requestId).isSome = true
      · simp only [endsAfter, endProcessed, handlesEnd, buffered, if_true]
        rfl
      · simp only [endsAfter, endProcessed, handlesEnd, buffered, Bool.false_eq_true, if_false,
          Option.toList_none, List.append_nil]
        rfl
  | _ => cases finishes

theorem endDesk_end (event : UniversalInstrumentationData) (requestId : String) :
    (tracker.handle env ambient
        (.universalInstrumentationEnd event (some requestId))).endDesk =
      tracker.endDesk.arrives requestId event (fun id => (tracker.find id).isSome) := by
  rw [endDesk_handle]
  rfl

theorem serves_end {command : Command} (named : command.namesEnd = true) :
    tracker.endDesk.Serves command.endSubject (tracker.handle env ambient command).endDesk := by
  have idle : forall subject, tracker.endDesk.Serves subject
      ⟨tracker.ends, tracker.ended ++ []⟩ := by
    intro subject
    rw [List.append_nil]
    exact .idle subject
  have finished : forall id, command.finishes id = true ->
      tracker.endDesk.Serves (some id) (tracker.handle env ambient command).endDesk := by
    intro id finishes
    rw [endDesk_finishes env ambient tracker finishes]
    split
    · exact .opens _ _ _
    · exact .idle _
  cases command with
  | platformRuntimeDone id =>
    exact finished id (beq_self_eq_true id)
  | platformReport id metrics =>
    cases metrics with
    | onDemand =>
      rw [endDesk_handle]
      exact idle _
    | managedInstance => exact finished id (beq_self_eq_true id)
  | universalInstrumentationEnd _ id =>
    cases id with
    | none => cases named
    | some =>
      rw [endDesk_end]
      exact .arrives _ _ _
  | _ =>
    rw [endDesk_handle]
    exact idle _

end Tracker
end Lifecycle
end Bottlecap
