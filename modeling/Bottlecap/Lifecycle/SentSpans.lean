import Bottlecap.Lifecycle.Pairing

namespace Bottlecap
namespace Lifecycle

open Foundations Extension

/-!
# Handing the spans of an invocation over

The spans of a context are handed over on two paths: at the end of the runtime,
if both ids of the invocation span are set by then, and by `update_reparenting`,
if it fills in the id that was missing.  No flag records that a context was sent.

An invocation begins with a fresh context.  From there two invariants are carried
along its life: a context that is finished and has both ids has been handed over,
and a context was handed over at most once, and not at all as long as it is
unfinished or lacks an id.  Each holds under a condition on the start and end
events that reach a finished context.
-/

/-- The event sets an id of the invocation span to zero. -/
def Command.ClearsId (env : Env) : Command -> Prop
  | universalInstrumentationStart event _ =>
    (extractSpanContext env.libraries env.triggers event.headers event.payloadValue).map
      SpanContext.lowTraceId = some 0
  | universalInstrumentationEnd event _ =>
    Context.headerId event.headers "x-datadog-span-id" = some 0
  | _ => False

namespace Entry

theorem runtimeDone_onStart (env : Env) (event : UniversalInstrumentationData) (entry : Entry) :
    (entry.onStart env event).runtimeDone = entry.runtimeDone := by
  unfold onStart
  split <;> rfl

theorem complete_onStart {env : Env} {event : UniversalInstrumentationData} {id : Option String}
    {entry : Entry} (complete : entry.complete = true)
    (keeps : ¬ (Command.universalInstrumentationStart event id).ClearsId env) :
    (entry.onStart env event).complete = true := by
  rw [complete_iff] at complete ⊢
  simp only [Command.ClearsId] at keeps
  unfold onStart
  cases extracted : extractSpanContext env.libraries env.triggers event.headers event.payloadValue with
  | none => exact complete
  | some =>
    rw [extracted] at keeps
    exact ⟨fun zero => keeps (congrArg some zero), complete.2⟩

theorem complete_onEnd {env : Env} {event : UniversalInstrumentationData} {id : Option String}
    {entry : Entry} (complete : entry.complete = true)
    (keeps : ¬ (Command.universalInstrumentationEnd event id).ClearsId env) :
    (entry.onEnd event.headers).complete = true := by
  rw [complete_iff] at complete ⊢
  constructor
  · unfold onEnd
    split
    · exact complete.1
    · assumption
  · unfold onEnd
    cases named : Context.headerId event.headers "x-datadog-span-id" with
    | none => exact complete.2
    | some => exact fun zero => keeps (named.trans (congrArg some zero))

/-- Reparenting fills in what is missing and replaces nothing. -/
theorem complete_reparent {info : ReparentingInfo} {entry : Entry}
    (complete : entry.complete = true) : (entry.reparent info).complete = true := by
  have parts := (complete_iff entry).mp complete
  unfold reparent
  rw [if_neg parts.1, if_neg parts.2]
  exact complete

theorem runtimeDone_settled (ambient : Ambient) (status : Status)
    (ended : Option UniversalInstrumentationData) (entry : Entry) :
    (entry.settled ambient status ended).runtimeDone = true := by
  cases ended <;> rfl

end Entry

namespace Life

variable {env : Env} {tracerDetected : Bool} {base : Nat} {life : Life}

theorem length_step (life : Life) (event : LifeEvent) :
    (life.step env tracerDetected event).entries.length <= life.entries.length := by
  rcases life with ⟨entries, handedOver⟩
  cases entries with
  | nil => rw [step_of_empty env tracerDetected rfl]
  | cons =>
    cases event with
    | gone => exact Nat.le_succ _
    | _ => exact Nat.le_refl _

theorem handedOver_le_step (life : Life) (event : LifeEvent) :
    life.handedOver <= (life.step env tracerDetected event).handedOver := by
  rcases life with ⟨entries, handedOver⟩
  cases entries with
  | nil => rw [step_of_empty env tracerDetected rfl]
  | cons =>
    cases event with
    | done =>
      simp only [step]
      split <;> omega
    | reparent =>
      simp only [step]
      split <;> omega
    | _ => exact Nat.le_refl _

/-- A finished context with both ids has been handed over. -/
structure HandedWhenReady (base : Nat) (life : Life) : Prop where
  single : life.entries.length <= 1
  grown : base <= life.handedOver
  handed : forall entry, entry ∈ life.entries -> entry.runtimeDone = true ->
    entry.complete = true -> base < life.handedOver

/-- The end of the runtime is reported to a traced function, and a start or end
event does not reach a finished context that lacks an id. -/
def InTime (tracerDetected : Bool) (life : Life) : LifeEvent -> Prop
  | .done _ _ _ => tracerDetected = true
  | .start _ => forall entry, entry ∈ life.entries -> entry.runtimeDone = true ->
      entry.complete = true
  | .finish _ => forall entry, entry ∈ life.entries -> entry.runtimeDone = true ->
      entry.complete = true
  | _ => True

theorem HandedWhenReady.step (ready : life.HandedWhenReady base) {event : LifeEvent}
    (inTime : life.InTime tracerDetected event) :
    (life.step env tracerDetected event).HandedWhenReady base := by
  refine ⟨Nat.le_trans (length_step life event) ready.single,
    Nat.le_trans ready.grown (handedOver_le_step life event), ?_⟩
  rcases empty_or_single ready.single with empty | ⟨entry, alone⟩
  · rw [step_of_empty env tracerDetected empty]
    exact ready.handed
  · rw [alone] at ready inTime ⊢
    have before := ready.handed entry List.mem_cons_self
    intro later member done complete
    cases event with
    | start =>
      cases List.mem_singleton.mp member
      rw [Entry.runtimeDone_onStart] at done
      exact before done (inTime entry List.mem_cons_self done)
    | finish =>
      cases List.mem_singleton.mp member
      exact before done (inTime entry List.mem_cons_self done)
    | done ambient status ended =>
      cases List.mem_singleton.mp member
      have sends : tracerDetected = true ∧
          (entry.settled ambient status ended).complete = true := ⟨inTime, complete⟩
      simp only [Life.step, if_pos sends]
      exact Nat.lt_succ_of_le ready.grown
    | reparent info =>
      cases List.mem_singleton.mp member
      cases known : entry.complete with
      | true => exact Nat.lt_of_lt_of_le (before done known) (handedOver_le_step _ _)
      | false =>
        have sends : entry.complete = false ∧ (entry.reparent info).complete = true ∧
            entry.runtimeDone = true := ⟨known, complete, done⟩
        simp only [Life.step, if_pos sends]
        exact Nat.lt_succ_of_le ready.grown
    | gone => cases member

/-- The context was handed over at most once, and not before it was finished and
had both ids. -/
structure HandedOnce (base : Nat) (life : Life) : Prop where
  single : life.entries.length <= 1
  atMost : life.handedOver <= base + 1
  unsent : forall entry, entry ∈ life.entries ->
    entry.runtimeDone = false ∨ entry.complete = false -> life.handedOver <= base

/-- The end of the runtime is reported once, and no event takes an id from a
context that is finished and has both. -/
def KeepsIds (env : Env) (life : Life) : LifeEvent -> Prop
  | .done _ _ _ => forall entry, entry ∈ life.entries -> entry.runtimeDone = false
  | .start event => forall entry, entry ∈ life.entries -> entry.runtimeDone = true ->
      entry.complete = true -> (entry.onStart env event).complete = true
  | .finish event => forall entry, entry ∈ life.entries -> entry.runtimeDone = true ->
      entry.complete = true -> (entry.onEnd event.headers).complete = true
  | _ => True

/-- The spans are handed over now, and were not before. -/
theorem handedOnce_of_handOver {entry : Entry} {count : Nat} (notYet : count <= base)
    (done : entry.runtimeDone = true) (complete : entry.complete = true) :
    HandedOnce base ⟨[entry], count + 1⟩ := by
  refine ⟨Nat.le_refl 1, Nat.succ_le_succ notYet, ?_⟩
  intro other member missing
  cases List.mem_singleton.mp member
  rw [done, complete] at missing
  rcases missing with impossible | impossible <;> cases impossible

/-- Nothing is handed over, and the context keeps what it had. -/
theorem HandedOnce.silent {entry later : Entry} {count : Nat}
    (once : HandedOnce base ⟨[entry], count⟩)
    (done : later.runtimeDone = false -> entry.runtimeDone = false)
    (complete : entry.runtimeDone = true -> entry.complete = true -> later.complete = true) :
    HandedOnce base ⟨[later], count⟩ := by
  refine ⟨Nat.le_refl 1, once.atMost, ?_⟩
  intro other member missing
  cases List.mem_singleton.mp member
  apply once.unsent entry List.mem_cons_self
  cases finished : entry.runtimeDone with
  | false => exact Or.inl rfl
  | true =>
    refine Or.inr ?_
    cases known : entry.complete with
    | false => rfl
    | true =>
      rcases missing with unfinished | incomplete
      · rw [done unfinished] at finished
        cases finished
      · rw [complete finished known] at incomplete
        cases incomplete

theorem HandedOnce.step (once : life.HandedOnce base) {event : LifeEvent}
    (keeps : life.KeepsIds env event) : (life.step env tracerDetected event).HandedOnce base := by
  rcases empty_or_single once.single with empty | ⟨entry, alone⟩
  · rw [step_of_empty env tracerDetected empty]
    exact once
  · rw [alone] at once keeps ⊢
    have before := once.unsent entry List.mem_cons_self
    cases event with
    | start =>
      apply once.silent
      · rw [Entry.runtimeDone_onStart]
        exact id
      · exact keeps entry List.mem_cons_self
    | finish => exact once.silent id (keeps entry List.mem_cons_self)
    | done ambient status ended =>
      have notYet := before (Or.inl (keeps entry List.mem_cons_self))
      have done := Entry.runtimeDone_settled ambient status ended entry
      simp only [Life.step]
      split
      · rename_i sends
        exact handedOnce_of_handOver notYet done sends.2
      · refine ⟨Nat.le_refl 1, once.atMost, ?_⟩
        intro _ _ _
        exact notYet
    | reparent info =>
      simp only [Life.step]
      split
      · rename_i sends
        exact handedOnce_of_handOver (before (Or.inr sends.1)) sends.2.2 sends.2.1
      · exact once.silent id (fun _ known => Entry.complete_reparent known)
    | gone =>
      refine ⟨Nat.zero_le 1, once.atMost, ?_⟩
      intro other member
      cases member

end Life

/-- The event neither reports the end of the runtime nor brings a start or end
event. -/
def LifeEvent.isQuiet : LifeEvent -> Bool
  | reparent _ => true
  | gone => true
  | _ => false

/-- No context of the request has seen the end of its runtime. -/
def Life.Unfinished (life : Life) : Prop :=
  forall entry, entry ∈ life.entries -> entry.runtimeDone = false

theorem Life.Unfinished.step {env : Env} {tracerDetected : Bool} {life : Life}
    (unfinished : life.Unfinished) {event : LifeEvent}
    (notDone : forall ambient status ended, event ≠ .done ambient status ended) :
    (life.step env tracerDetected event).Unfinished := by
  rcases life with ⟨entries, handedOver⟩
  cases entries with
  | nil =>
    rw [step_of_empty env tracerDetected rfl]
    exact unfinished
  | cons entry rest =>
    rcases List.forall_mem_cons.mp unfinished with ⟨first, others⟩
    cases event with
    | done ambient status ended => exact absurd rfl (notDone ambient status ended)
    | gone => exact others
    | start => exact List.forall_mem_cons.mpr ⟨(entry.runtimeDone_onStart env _).trans first, others⟩
    | finish => exact List.forall_mem_cons.mpr ⟨first, others⟩
    | reparent => exact List.forall_mem_cons.mpr ⟨first, others⟩

namespace Tracker

variable (env : Env) (ambient : Ambient) {requestId : String} (tracker : Tracker)

theorem quiet_evictEvents :
    forall event, event ∈ tracker.evictEvents requestId -> event.isQuiet = true := by
  intro event member
  unfold evictEvents at member
  split at member
  · cases List.mem_singleton.mp member
    rfl
  · cases member

theorem quiet_enterEvents :
    forall event, event ∈ tracker.enterEvents env requestId -> event.isQuiet = true := by
  intro event member
  unfold enterEvents at member
  split at member
  · split at member
    · cases List.mem_singleton.mp member
      rfl
    · cases member
  · exact quiet_evictEvents tracker event member

/-- The events of a command are quiet, or begin with the end of the runtime, or
are the start or end event that the command brings. -/
inductive EventShape (requestId : String) (command : Command) : List LifeEvent -> Prop
  | quiet {events : List LifeEvent} (each : forall event, event ∈ events -> event.isQuiet = true) :
      EventShape requestId command events
  | done (finishes : command.finishes requestId = true) (status : Status)
      (ended : Option UniversalInstrumentationData) {rest : List LifeEvent}
      (each : forall event, event ∈ rest -> event.isQuiet = true) :
      EventShape requestId command (.done ambient status ended :: rest)
  | start (data : UniversalInstrumentationData) (id : Option String)
      (brings : command = .universalInstrumentationStart data id)
      (own : tracker.paired env command = some requestId) :
      EventShape requestId command [.start data]
  | finish (data : UniversalInstrumentationData) (id : Option String)
      (brings : command = .universalInstrumentationEnd data id)
      (own : tracker.paired env command = some requestId) :
      EventShape requestId command [.finish data]

theorem lifeEvents_shape (requestId : String) (command : Command) :
    tracker.EventShape env ambient requestId command
      (tracker.lifeEvents env ambient requestId command) := by
  cases command with
  | invokeEvent => exact .quiet (quiet_enterEvents env tracker)
  | platformInitStart =>
    simp only [lifeEvents]
    split
    · exact .quiet (quiet_evictEvents tracker)
    · exact .quiet (List.forall_mem_nil _)
  | platformStart =>
    simp only [lifeEvents]
    split
    · exact .quiet (quiet_enterEvents env tracker)
    · exact .quiet (List.forall_mem_nil _)
  | platformRuntimeDone id metrics status errorType timestamp =>
    simp only [lifeEvents]
    split
    · rename_i own
      refine .done ?_ status _ (List.forall_mem_nil _)
      exact beq_iff_eq.mpr own
    · exact .quiet (List.forall_mem_nil _)
  | platformReport id metrics timestamp status errorType spans =>
    have released : forall event, event ∈ [LifeEvent.gone] -> event.isQuiet = true := by
      intro event member
      cases List.mem_singleton.mp member
      rfl
    simp only [lifeEvents]
    split
    · rename_i own
      cases metrics with
      | onDemand => exact .quiet released
      | managedInstance =>
        refine .done ?_ status _ released
        exact beq_iff_eq.mpr own
    · exact .quiet (List.forall_mem_nil _)
  | universalInstrumentationStart data id =>
    simp only [lifeEvents]
    split
    · rename_i own
      exact .start data id rfl own
    · exact .quiet (List.forall_mem_nil _)
  | universalInstrumentationEnd data id =>
    simp only [lifeEvents]
    split
    · rename_i own
      exact .finish data id rfl own
    · exact .quiet (List.forall_mem_nil _)
  | updateReparenting =>
    apply EventShape.quiet
    intro event member
    rcases List.mem_map.mp member with ⟨info, _, same⟩
    rw [<- same]
    rfl
  | _ => exact .quiet (List.forall_mem_nil _)

/-- The rule for a property of lives that a step keeps under a condition which quiet events
meet in any case: a command keeps it if the end of the runtime and the start or end event of
the command meet the condition. -/
theorem life_invariant {holds : Life -> Prop} (condition : Life -> LifeEvent -> Prop)
    {requestId : String} {command : Command} (continues : ¬ command.Begins env requestId)
    (keeps : forall life event, holds life -> condition life event ->
      holds (life.step env tracker.tracerDetected event))
    (initial : holds (tracker.life requestId))
    (reparents : forall life info, condition life (.reparent info))
    (leaves : forall life, condition life .gone)
    (finishes : command.finishes requestId = true -> forall status ended,
      condition (tracker.life requestId) (.done ambient status ended))
    (starts : forall data id, command = .universalInstrumentationStart data id ->
      tracker.paired env command = some requestId ->
        condition (tracker.life requestId) (.start data))
    (ends : forall data id, command = .universalInstrumentationEnd data id ->
      tracker.paired env command = some requestId ->
        condition (tracker.life requestId) (.finish data)) :
    holds ((tracker.handle env ambient command).life requestId) := by
  rw [life_handle _ _ _ _ continues]
  refine Machine.Along.invariant (?_ : Machine.Along _ condition _ _) keeps initial
  have quiet : forall event : LifeEvent, event.isQuiet = true ->
      forall life, condition life event := by
    intro event isQuiet life
    cases event with
    | reparent info => exact reparents life info
    | gone => exact leaves life
    | start => cases isQuiet
    | finish => cases isQuiet
    | done => cases isQuiet
  have shape := lifeEvents_shape env ambient tracker requestId command
  generalize tracker.lifeEvents env ambient requestId command = events at shape ⊢
  cases shape with
  | quiet each =>
    apply Machine.along_of_forall
    intro event member
    exact quiet event (each event member)
  | done reports status ended each =>
    refine ⟨finishes reports status ended, Machine.along_of_forall _ ?_⟩
    intro event member
    exact quiet event (each event member)
  | start data id brings own => exact ⟨starts data id brings own, trivial⟩
  | finish data id brings own => exact ⟨ends data id brings own, trivial⟩

/-- An invocation of a request without a context leaves it with one at most. -/
theorem length_life_of_begins {command : Command} (begins : command.Begins env requestId)
    (fresh : tracker.find requestId = none) :
    ((tracker.handle env ambient command).life requestId).entries.length <= 1 := by
  have none_before : tracker.entries.filter (Entry.named requestId) = [] :=
    life_entries_of_find_none fresh
  have inserted : forall entry : Entry,
      ((tracker.insert entry).life requestId).entries.length <= 1 := by
    intro entry
    have kept : forall part : List Entry, List.Sublist part tracker.entries ->
        ((part ++ [entry]).filter (Entry.named requestId)).length <= 1 := by
      intro part smaller
      have nothing : part.filter (Entry.named requestId) = [] := by
        have shrinks := smaller.filter (Entry.named requestId)
        rw [none_before] at shrinks
        exact List.sublist_nil.mp shrinks
      rw [List.filter_append, nothing]
      exact List.length_filter_le _ [entry]
    unfold insert life
    split
    · exact kept _ (List.tail_sublist _)
    · exact kept _ List.eraseP_sublist
  have entered : ((tracker.enter env requestId).life requestId).entries.length <= 1 := by
    unfold enter
    split
    · simp only
      split
      · refine Nat.le_trans (length_filter_modifyFirst (Entry.named requestId) tracker.entries) ?_
        rw [none_before]
        exact Nat.le_refl 1
      · exact inserted _
    · exact inserted _
  have invoked : ((tracker.invoke env requestId).life requestId).entries.length <= 1 := by
    unfold invoke pairStart
    simp only
    split
    · rw [life_processStart env _ requestId true, if_pos rfl, List.foldl_cons, List.foldl_nil]
      exact Nat.le_trans (Life.length_step _ _) entered
    · exact entered
  cases command with
  | invokeEvent =>
    cases begins
    exact invoked
  | platformStart =>
    rcases begins with ⟨managed, same⟩
    subst same
    simp only [handle, if_pos managed]
    exact invoked
  | platformInitStart =>
    simp only [handle, if_pos begins.1]
    exact inserted _
  | _ => cases begins

end Tracker

/-! ## Runs -/

/-- The spans of a context of the request are sent. -/
def Effect.isSent (requestId : String) : Effect -> Bool
  | sendSpans (some id) _ _ _ => id == requestId
  | _ => false

def Effect.isReturned (requestId : String) : Effect -> Bool
  | sendCtxSpans .updateReparenting context => context.requestId == requestId
  | _ => false

namespace Processor

variable {env : Env} {requestId : String}

/-- How often the spans of the request's context were sent. -/
def sentCount (requestId : String) (processor : Processor) : Nat :=
  processor.effects.countP (Effect.isSent requestId)

/-- How often `update_reparenting` returned a context of the request. -/
def returnedCount (requestId : String) (processor : Processor) : Nat :=
  processor.effects.countP (Effect.isReturned requestId)

theorem owed_view (requestId : String) (processor : Processor) :
    processor.view.owed requestId = (processor.handedOverCount requestId : Int) -
      processor.returnedCount requestId - processor.sentCount requestId := by
  have handed := life_handedOver requestId processor
  have returned : processor.view.log.countP (Milestone.isReturned requestId) =
      processor.returnedCount requestId := by
    unfold view returnedCount
    simp only [List.countP_filterMap]
    apply List.countP_congr
    intro effect _
    cases effect with
    | sendSpans requestId => cases requestId <;> rfl
    | sendCtxSpans path => cases path <;> rfl
    | _ => rfl
  have sent : processor.view.log.countP (Milestone.isSent requestId) =
      processor.sentCount requestId := by
    unfold view sentCount
    simp only [List.countP_filterMap]
    apply List.countP_congr
    intro effect _
    cases effect with
    | sendSpans requestId => cases requestId <;> rfl
    | _ => rfl
  change ((processor.view.life requestId).handedOver : Int) - _ - _ = _
  rw [handed, returned, sent]

theorem owed_run (env : Env) (requestId : String) (processor : Processor) (inputs : List Input) :
    (processor.run env inputs).view.owed requestId = processor.view.owed requestId -
      inputs.countP (fun input => input.command.sendsFor requestId) := by
  induction inputs generalizing processor with
  | nil => exact (sub_zero _).symm
  | cons input rest ih =>
    change ((processor.step env input).run env rest).view.owed requestId = _
    rw [ih, view_step, Tracker.owed_handle, List.countP_cons]
    split <;> omega

/-- The step belongs to the life of the request, a report of the end of its
runtime finds the tracer detected, and a start or end event does not reach its
context when that is finished and lacks an id. -/
structure InTime (env : Env) (requestId : String) (processor : Processor) (input : Input) :
    Prop where
  continues : ¬ input.command.Begins env requestId
  traced : input.command.finishes requestId = true -> processor.tracerDetected = true
  early : processor.view.paired env input.command = some requestId ->
    forall context, processor.contextBuffer.get requestId = some context ->
      context.runtimeDoneReceived = true -> context.idsComplete = true

variable {processor : Processor}

theorem handedWhenReady_step {base : Nat} (processor : Processor) (input : Input)
    (ready : (processor.view.life requestId).HandedWhenReady base)
    (inTime : processor.InTime env requestId input) :
    ((processor.step env input).view.life requestId).HandedWhenReady base := by
  rw [view_step]
  apply processor.view.life_invariant env input.ambient
    (Life.InTime processor.view.tracerDetected) inTime.continues (fun _ _ kept => kept.step) ready
  · exact fun _ _ => trivial
  · exact fun _ => trivial
  · exact fun finishes _ _ => inTime.traced finishes
  · exact fun _ _ _ own => forall_life ready.single (inTime.early own)
  · exact fun _ _ _ own => forall_life ready.single (inTime.early own)

/-- An invocation begins: the request had no context, and the one it gets has not
seen the end of its runtime. -/
structure Opens (env : Env) (requestId : String) (processor : Processor) (opening : Input) :
    Prop where
  begins : opening.command.Begins env requestId
  fresh : processor.contextBuffer.get requestId = none
  unfinished : forall context,
    (processor.step env opening).contextBuffer.get requestId = some context ->
      context.runtimeDoneReceived = false

theorem Opens.single {opening : Input} (opens : Opens env requestId processor opening) :
    ((processor.step env opening).view.life requestId).entries.length <= 1 := by
  have missing : processor.view.find requestId = none := by
    rw [<- get_entry, opens.fresh, Option.map_none]
  rw [view_step]
  exact Tracker.length_life_of_begins env opening.ambient processor.view opens.begins missing

theorem Opens.unfinished_life {opening : Input} (opens : Opens env requestId processor opening) :
    ((processor.step env opening).view.life requestId).Unfinished :=
  forall_life opens.single opens.unfinished

/-- In every run, an invocation whose steps are all in time has its context handed
over by the time its runtime is over and both ids are set. -/
theorem handedOver_of_inTime {opening : Input} {after : List Input}
    (opens : Opens env requestId processor opening)
    (inTime : Machine.Along (Processor.step env) (InTime env requestId)
      (processor.step env opening) after) {context : Context}
    (buffered : ((processor.step env opening).run env after).contextBuffer.get requestId =
      some context)
    (done : context.runtimeDoneReceived = true) (complete : context.idsComplete = true) :
    (processor.step env opening).handedOverCount requestId <
      ((processor.step env opening).run env after).handedOverCount requestId := by
  have initial : ((processor.step env opening).view.life requestId).HandedWhenReady
      ((processor.step env opening).handedOverCount requestId) := by
    refine ⟨opens.single, Nat.le_of_eq (life_handedOver requestId _).symm, ?_⟩
    intro entry member finished
    rw [opens.unfinished_life entry member] at finished
    cases finished
  have ready : (((processor.step env opening).run env after).view.life requestId).HandedWhenReady
      ((processor.step env opening).handedOverCount requestId) :=
    inTime.invariant (fun processor input => handedWhenReady_step processor input) initial
  rw [<- life_handedOver requestId (Processor.run _ _ _)]
  exact ready.handed context.entry (entry_mem_life buffered) done complete

/-- The trace agent has come back with as many contexts of the request as
`update_reparenting` has returned to it. -/
def AgentAnswered (env : Env) (requestId : String) (opened : Processor) (after : List Input) :
    Prop :=
  (opened.run env after).returnedCount requestId <= opened.returnedCount requestId +
    after.countP (fun input => input.command.sendsFor requestId)

instance (env : Env) (requestId : String) (opened : Processor) (after : List Input) :
    Decidable (AgentAnswered env requestId opened after) := inferInstanceAs (Decidable (_ <= _))

/-- Whatever is checked of the context found is true of every context found. -/
theorem forall_get (meets : Context -> Bool)
    (checked : ((processor.contextBuffer.get requestId).all meets) = true) :
    forall context, processor.contextBuffer.get requestId = some context ->
      meets context = true := by
  intro context buffered
  rw [buffered] at checked
  exact checked

/-- An invocation of a traced function. -/
def traced : Processor :=
  (Processor.new.run (Env.plain false) [Command.tracerStart.still]).step (Env.plain false)
    (Command.invokeEvent "r1").still

theorem opens_traced :
    Opens (Env.plain false) "r1" (Processor.new.run (Env.plain false) [Command.tracerStart.still])
      (Command.invokeEvent "r1").still := by
  refine ⟨rfl, by decide, ?_⟩
  intro context buffered
  have checked := forall_get (fun context => !context.runtimeDoneReceived) (by decide) context
    buffered
  exact (Bool.not_eq_true' _).mp checked

/-- An end event that arrives after the end of the runtime sets both ids. -/
def lateEnd : List Input :=
  [(Command.runtimeDoneOf "r1" .success).still, (Command.endOf "5" "6").still]

/-- The step belongs to the life of the request, and no event that sets an id to
zero reaches its context when that is finished and has both ids. -/
structure KeepsIds (env : Env) (requestId : String) (processor : Processor) (input : Input) :
    Prop where
  continues : ¬ input.command.Begins env requestId
  keeps : processor.view.paired env input.command = some requestId ->
    forall context, processor.contextBuffer.get requestId = some context ->
      context.runtimeDoneReceived = true -> context.idsComplete = true ->
        ¬ input.command.ClearsId env

theorem handedOnce_step {base : Nat} {input : Input}
    (once : (processor.view.life requestId).HandedOnce base)
    (reported : input.command.finishes requestId = true ->
      (processor.view.life requestId).Unfinished)
    (keepsIds : processor.KeepsIds env requestId input) :
    ((processor.step env input).view.life requestId).HandedOnce base := by
  rw [view_step]
  apply processor.view.life_invariant env input.ambient (Life.KeepsIds env)
    keepsIds.continues (fun _ _ kept => kept.step) once
  · exact fun _ _ => trivial
  · exact fun _ => trivial
  · exact fun finishes _ _ => reported finishes
  · intro data id brings own
    refine forall_life once.single ?_
    intro context buffered done complete
    exact Entry.complete_onStart complete
      (brings ▸ keepsIds.keeps own context buffered done complete)
  · intro data id brings own
    refine forall_life once.single ?_
    intro context buffered done complete
    exact Entry.complete_onEnd complete
      (brings ▸ keepsIds.keeps own context buffered done complete)

/-- Only a report of the end of the runtime finishes a context. -/
theorem unfinished_step {input : Input} (continues : ¬ input.command.Begins env requestId)
    (unreported : input.command.finishes requestId = false)
    (unfinished : (processor.view.life requestId).Unfinished) :
    ((processor.step env input).view.life requestId).Unfinished := by
  rw [view_step]
  apply processor.view.life_invariant env input.ambient
    (fun _ event => forall ambient status ended, event ≠ .done ambient status ended)
    continues (fun _ _ current => current.step) unfinished
  · exact fun _ _ _ _ _ => nofun
  · exact fun _ _ _ _ => nofun
  · intro finishes
    rw [unreported] at finishes
    cases finishes
  · exact fun _ _ _ _ _ _ _ => nofun
  · exact fun _ _ _ _ _ _ _ => nofun

/-- While a report is still to come the context is unfinished. -/
theorem handedOnce_run {base : Nat} (inputs : List Input) (processor : Processor)
    (once : (processor.view.life requestId).HandedOnce base)
    (reports : (inputs.countP (fun input => input.command.finishes requestId)) <= 1)
    (pending : (inputs.countP (fun input => input.command.finishes requestId)) = 1 ->
      (processor.view.life requestId).Unfinished)
    (keepsIds : Machine.Along (Processor.step env) (KeepsIds env requestId) processor inputs) :
    ((processor.run env inputs).view.life requestId).HandedOnce base := by
  induction inputs generalizing processor with
  | nil => exact once
  | cons input rest ih =>
    rcases keepsIds with ⟨keeps, later⟩
    rw [List.countP_cons] at reports pending
    cases finishes : input.command.finishes requestId with
    | true =>
      simp only [finishes, if_true] at reports pending
      have unfinished := pending (by omega)
      refine ih (processor.step env input) (handedOnce_step once (fun _ => unfinished) keeps)
        (by omega) ?_ later
      omega
    | false =>
      simp only [finishes] at reports pending
      have unreported : input.command.finishes requestId = true ->
          (processor.view.life requestId).Unfinished := by
        rw [finishes]
        intro impossible
        cases impossible
      refine ih (processor.step env input) (handedOnce_step once unreported keeps) reports ?_ later
      intro more
      exact unfinished_step keeps.continues finishes (pending more)

/-- The trace agent sends contexts of the request only as often as `update_reparenting`
has returned one. -/
def AgentFaithful (env : Env) (requestId : String) (opened : Processor) (after : List Input) :
    Prop :=
  opened.returnedCount requestId + after.countP (fun input => input.command.sendsFor requestId) <=
    (opened.run env after).returnedCount requestId

instance (env : Env) (requestId : String) (opened : Processor) (after : List Input) :
    Decidable (AgentFaithful env requestId opened after) := inferInstanceAs (Decidable (_ <= _))

/-- In every run, the spans of an invocation whose runtime is reported over once
are handed over at most once, if its finished context keeps its ids, and with a faithful
trace agent they are sent at most once. -/
theorem sent_at_most_once (before after : List Input) (opening : Input)
    (opens : Opens env requestId (Processor.new.run env before) opening)
    (reports : (after.countP (fun input => input.command.finishes requestId)) <= 1) :
    let opened := (Processor.new.run env before).step env opening
    Machine.Along (Processor.step env) (KeepsIds env requestId) opened after ->
      (opened.run env after).handedOverCount requestId <= opened.handedOverCount requestId + 1 ∧
        (AgentFaithful env requestId opened after ->
          (opened.run env after).sentCount requestId <= opened.sentCount requestId + 1) := by
  intro opened keepsIds
  have initial : (opened.view.life requestId).HandedOnce (opened.handedOverCount requestId) := by
    rw [<- life_handedOver]
    refine ⟨opens.single, Nat.le_succ _, ?_⟩
    intro _ _ _
    exact Nat.le_refl _
  have once := handedOnce_run after opened initial reports (fun _ => opens.unfinished_life) keepsIds
  have handed := once.atMost
  rw [life_handedOver requestId (opened.run env after)] at handed
  refine ⟨handed, ?_⟩
  intro faithful
  have balance := owed_run env requestId opened after
  unfold AgentFaithful at faithful
  rw [owed_view, owed_view] at balance
  omega

/-- What `update_reparenting` returns after the inputs, if it returns something. -/
def returnedAfter (inputs : List Input) : Context :=
  ((traced.run (Env.plain false) inputs).contextBuffer.get "r1").getD
    { createdAt := 0, requestId := "r1" }

/-- The runtime is over before the ids are known, and `update_reparenting` fills them in. -/
def reparentedLate : List Input :=
  [(Command.runtimeDoneOf "r1" .success).still,
    (Command.updateReparenting [⟨"r1", 6, 0, 5, false⟩]).still]

/-- The trace agent sends what it got back, once. -/
theorem sent_at_most_once_reparented :
    let after := reparentedLate ++ [(Command.sendCtxSpans (returnedAfter reparentedLate)).still]
    (traced.run (Env.plain false) after).handedOverCount "r1" <= traced.handedOverCount "r1" + 1 ∧
      (traced.run (Env.plain false) after).sentCount "r1" <= traced.sentCount "r1" + 1 := by
  intro after
  have once := sent_at_most_once [Command.tracerStart.still] after _ opens_traced (by decide)
    ⟨⟨id, nofun⟩, ⟨id, nofun⟩, ⟨id, nofun⟩, trivial⟩
  exact ⟨once.1, once.2 (by decide)⟩

/-- An end event with span id zero arrives after the spans were sent. -/
def clearedId : List Input :=
  [(Command.runtimeDoneOf "r1" .timeout).still, (Command.endOf "5" "0").still,
    (Command.updateReparenting [⟨"r1", 6, 0, 5, false⟩]).still]

/-- `update_reparenting` returns them again, and the trace agent sends them. -/
theorem zero_span_id_sent_twice :
    ¬ forall (env : Env) (requestId : String) (before after : List Input) (opening : Input),
      Opens env requestId (Processor.new.run env before) opening ->
      (after.countP (fun input => input.command.finishes requestId)) <= 1 ->
      (forall input, input ∈ after -> ¬ input.command.Begins env requestId) ->
      let opened := (Processor.new.run env before).step env opening
      AgentFaithful env requestId opened after ->
        (opened.run env after).sentCount requestId <= opened.sentCount requestId + 1 := by
  intro always
  let after := clearedId ++ [(Command.sendCtxSpans (returnedAfter clearedId)).still]
  have continues : forall input, input ∈ after -> ¬ input.command.Begins (Env.plain false) "r1" :=
    List.forall_mem_cons.mpr ⟨id, List.forall_mem_cons.mpr ⟨id, List.forall_mem_cons.mpr ⟨id,
      List.forall_mem_singleton.mpr id⟩⟩⟩
  have once := always (Env.plain false) "r1" [Command.tracerStart.still] after _ opens_traced
    (by decide) continues (by decide)
  exact absurd once (by decide)

end Processor
end Lifecycle
end Bottlecap
