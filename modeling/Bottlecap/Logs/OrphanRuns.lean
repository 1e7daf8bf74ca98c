import Bottlecap.Logs.Orphans

namespace Bottlecap
namespace Logs

open Foundations Extension

/-!
# Which request id an orphan gets

An orphan waits until the next event that queues a log.  It gets a request id,
and not the empty one, exactly if that event is a `platform.start`.  The results
are about every sequence of events whose calls of `process` return.
-/

namespace LogsProcessor

variable {env : ProcessorEnv} {fuel : Nat}

/-- What an event does to the active request id and the orphans. -/
theorem process_front {event : TelemetryEvent} {logs after : LogsProcessor}
    (returns : logs.process env fuel event = some after) :
    after.lambda.requestId = activeAfter logs.lambda.requestId event ∧
      after.lambda.orphanLogs = logs.lambda.orphansAfter env event := by
  rcases Option.map_eq_some_iff.mp returns with ⟨⟨batch, taken⟩, processed, inserted⟩
  rcases Option.map_eq_some_iff.mp processed with ⟨queued, queues, splits⟩
  cases splits
  rw [<- inserted, insertBatch_lambda]
  have orphans := LambdaProcessor.queueEvent_orphanLogs queues
  refine ⟨?_, orphans⟩
  rw [LambdaProcessor.queueEvent_eq] at queues
  rcases Option.map_eq_some_iff.mp queues with ⟨buffers, _, same⟩
  rw [<- same]
  exact (LambdaProcessor.getMessage_spec env logs.lambda event).1.requestId

variable (env fuel)

/-- The events, all of whose calls return, lead to the state. -/
def Ran (events : List TelemetryEvent) (state : LogsProcessor) : Prop :=
  events.foldlM (fun (logs : LogsProcessor) event => logs.process env fuel event) new = some state

/-- After `before`, the log of the event becomes an orphan. -/
def Orphaned (state : LogsProcessor) (event : TelemetryEvent) (log : IntakeLog) : Prop :=
  state.lambda.producedLog env event = some log ∧ ¬ LambdaProcessor.Queues env log

/-- The next event that queues logs, after the events `between`, queues the
orphan, under a request id that it carries or that is active after it. -/
def Released (before between : List TelemetryEvent) (release : TelemetryEvent)
    (log : IntakeLog) : Prop :=
  (forall early skipped late state, between = early ++ skipped :: late ->
      Ran env fuel (before ++ early) state -> state.lambda.queuedLogs env skipped = []) ∧
    forall state, Ran env fuel (before ++ between) state ->
      Exists fun requestId => requestId ≠ "" ∧
        (carriedId env.libraries release = some (some requestId) ∨
          activeAfter state.lambda.requestId release = requestId) ∧
        LambdaProcessor.adopt requestId log ∈ state.lambda.queuedLogs env release

/-- Every orphan of the run is later queued under a nonempty request id. -/
def OrphansSettled (events : List TelemetryEvent) : Prop :=
  forall before event after state log, events = before ++ event :: after ->
    Ran env fuel before state -> Orphaned env state event log ->
      Exists fun between => Exists fun release =>
        Exists fun rest => after = between ++ release :: rest ∧
          Released env fuel (before ++ [event]) between release log

/-- No log of the run is queued under the empty request id. -/
def QueuedNamed (events : List TelemetryEvent) : Prop :=
  forall before event after state, events = before ++ event :: after ->
    Ran env fuel before state -> forall log, log ∈ state.lambda.queuedLogs env event ->
      log.message.lambda.requestId ≠ some ""

/-- An event that finds no request id for its message is followed by a
`platform.start` before any other event that carries a request id, and no event
carries the empty one. -/
def StartsRelease (libraries : LogLibraries) (events : List TelemetryEvent) : Prop :=
  (forall before event after, events = before ++ event :: after -> Unnamed libraries event ->
    before.foldl activeAfter "" = "" ->
      Exists fun between => Exists fun release =>
        Exists fun rest => after = between ++ release :: rest ∧
          (forall other, other ∈ between -> ¬ Names libraries other) ∧
          Exists fun requestId => Exists fun version =>
            release.record = .platformStart requestId version) ∧
    forall event, event ∈ events -> carriedId libraries event ≠ some (some "")

variable {env fuel}

/-! ## Prefixes of a run -/

variable {state : LogsProcessor} {events : List TelemetryEvent}

theorem ran_append {first second : List TelemetryEvent} :
    Ran env fuel (first ++ second) state <-> Exists fun middle => Ran env fuel first middle ∧
        second.foldlM (fun (logs : LogsProcessor) event => logs.process env fuel event) middle =
          some state := by
  rw [Ran, List.foldlM_append]
  exact Option.bind_eq_some_iff

theorem ran_snoc {event : TelemetryEvent} :
    Ran env fuel (events ++ [event]) state <-> Exists fun before =>
      Ran env fuel events before ∧ before.process env fuel event = some state := by
  rw [ran_append]
  refine exists_congr (fun before => and_congr_right (fun _ => ?_))
  rw [List.foldlM_cons]
  exact ⟨fun returns => by
    rcases Option.bind_eq_some_iff.mp returns with ⟨next, first, last⟩
    cases last
    exact first, fun returns => by rw [returns]; rfl⟩

theorem ran_unique {first second : LogsProcessor} (one : Ran env fuel events first)
    (other : Ran env fuel events second) : first = second :=
  Option.some.inj (one.symm.trans other)

theorem ran_requestId (ran : Ran env fuel events state) :
    state.lambda.requestId = events.foldl activeAfter "" := by
  induction events using List.reverseRecOn generalizing state with
  | nil =>
    cases ran
    rfl
  | append_singleton _ _ ih =>
    rcases ran_snoc.mp ran with ⟨before, earlier, returns⟩
    rw [List.foldl_append, <- ih earlier]
    exact (process_front returns).1

variable (onDemand : env.isManagedInstanceMode = false)

include onDemand

/-! ## Waiting -/

variable {event : TelemetryEvent} {before events : List TelemetryEvent} {state : LogsProcessor}

/-- While no event carries a request id, orphans wait and nothing is queued. -/
theorem wait_of_not_names (between : List TelemetryEvent) {logs after : LogsProcessor}
    (quiet : forall other, other ∈ between -> ¬ Names env.libraries other)
    (idle : logs.lambda.requestId = "")
    (returns : between.foldlM (fun (logs : LogsProcessor) event => logs.process env fuel event)
      logs = some after) :
    after.lambda.requestId = "" ∧
      forall log, log ∈ logs.lambda.orphanLogs -> log ∈ after.lambda.orphanLogs := by
  induction between generalizing logs with
  | nil =>
    cases returns
    exact ⟨idle, fun log member => member⟩
  | cons event _ ih =>
    rw [List.forall_mem_cons] at quiet
    rcases Option.bind_eq_some_iff.mp returns with ⟨next, first, later⟩
    have unnamed := quiet.1
    have front := process_front first
    have nextIdle : next.lambda.requestId = "" := by
      rw [front.1, activeAfter_of_not_names unnamed, idle]
    have tail := ih quiet.2
      nextIdle later
    refine ⟨tail.1, fun log member => tail.2 log ?_⟩
    rw [front.2]
    cases carried : carriedId env.libraries event with
    | none =>
      rw [(LambdaProcessor.queuedLogs_of_silent carried logs.lambda).2]
      exact member
    | some requestId =>
      cases requestId with
      | some requestId => exact absurd ⟨requestId, carried⟩ unnamed
      | none =>
        rcases (LambdaProcessor.queuedLogs_of_unnamed onDemand carried idle).2 with
          ⟨other, _, _, orphans⟩
        rw [orphans]
        exact List.mem_append_left _ member

/-- Without an active invocation, an event that carries no request id queues
nothing. -/
theorem queuedLogs_of_idle (unnamed : ¬ Names env.libraries event) {processor : LambdaProcessor}
    (idle : processor.requestId = "") :
    processor.queuedLogs env event = [] := by
  cases carried : carriedId env.libraries event with
  | none => exact (LambdaProcessor.queuedLogs_of_silent carried processor).1
  | some requestId =>
    cases requestId with
    | some requestId => exact absurd ⟨requestId, carried⟩ unnamed
    | none => exact (LambdaProcessor.queuedLogs_of_unnamed onDemand carried idle).1

/-- An orphan waits while no event carries a request id. -/
theorem orphan_waits {skipped : List TelemetryEvent} {later : LogsProcessor} {log : IntakeLog}
    (ran : Ran env fuel before state) (orphaned : Orphaned env state event log)
    (silent : forall other, other ∈ skipped -> ¬ Names env.libraries other)
    (ranLater : Ran env fuel (before ++ [event] ++ skipped) later) :
    later.lambda.requestId = "" ∧ log ∈ later.lambda.orphanLogs := by
  rcases (LambdaProcessor.orphaned_iff onDemand orphaned.1).mp orphaned.2 with ⟨unnamed, idle⟩
  rcases ran_append.mp ranLater with ⟨orphan, ranOrphan, through⟩
  rcases ran_snoc.mp ranOrphan with ⟨other, ranOther, processed⟩
  cases ran_unique ran ranOther
  have front := process_front processed
  have orphanIdle : orphan.lambda.requestId = "" := by
    rw [front.1, activeAfter_of_not_names unnamed.not_names, idle]
  have tail := wait_of_not_names onDemand skipped silent orphanIdle through
  refine ⟨tail.1, tail.2 log ?_⟩
  rcases (LambdaProcessor.queuedLogs_of_unnamed onDemand unnamed idle).2 with
    ⟨fresh, produced, _, orphans⟩
  rw [orphaned.1] at produced
  cases produced
  rw [front.2, orphans]
  exact List.mem_append_right _ List.mem_cons_self

/-- A waiting orphan came from an event after which none carried a request id. -/
theorem orphan_origin {log : IntakeLog} (ran : Ran env fuel events state)
    (waits : log ∈ state.lambda.orphanLogs) :
    Exists fun before => Exists fun event =>
      Exists fun between => events = before ++ event :: between ∧
        Unnamed env.libraries event ∧ before.foldl activeAfter "" = "" ∧
        forall other, other ∈ between -> ¬ Names env.libraries other := by
  induction events using List.reverseRecOn generalizing state with
  | nil =>
    cases ran
    cases waits
  | append_singleton events event ih =>
    rcases ran_snoc.mp ran with ⟨earlier, ranEarlier, returns⟩
    -- An orphan from before the last event, which then carries no request id.
    have older : ¬ Names env.libraries event -> log ∈ earlier.lambda.orphanLogs ->
        Exists fun before => Exists fun origin => Exists fun between =>
            events ++ [event] = before ++ origin :: between ∧
            Unnamed env.libraries origin ∧ before.foldl activeAfter "" = "" ∧
            forall other, other ∈ between -> ¬ Names env.libraries other := by
      intro unnamed member
      rcases ih ranEarlier member with ⟨before, origin, between, split, rest⟩
      refine ⟨before, origin, between ++ [event], ?_, rest.1, rest.2.1, ?_⟩
      · rw [split, List.append_assoc, List.cons_append]
      · exact List.forall_mem_append.mpr ⟨rest.2.2, List.forall_mem_singleton.mpr unnamed⟩
    rw [(process_front returns).2] at waits
    cases carried : carriedId env.libraries event with
    | none =>
      rw [(LambdaProcessor.queuedLogs_of_silent carried earlier.lambda).2] at waits
      refine older ?_ waits
      rintro ⟨requestId, named⟩
      rw [carried] at named
      cases named
    | some requestId =>
      cases requestId with
      | some =>
        rw [(LambdaProcessor.queuedLogs_of_names onDemand carried earlier.lambda).1] at waits
        cases waits
      | none =>
        have unnamed : Unnamed env.libraries event := carried
        by_cases idle : earlier.lambda.requestId = ""
        · rcases (LambdaProcessor.queuedLogs_of_unnamed onDemand unnamed idle).2 with
            ⟨fresh, _, _, orphans⟩
          rw [orphans] at waits
          rcases List.mem_append.mp waits with old | last
          · exact older unnamed.not_names old
          · refine ⟨events, event, [], rfl, unnamed, ?_, fun other member => by cases member⟩
            rw [<- ran_requestId ranEarlier, idle]
        · rw [(LambdaProcessor.queuedLogs_of_active onDemand unnamed idle).1] at waits
          cases waits

/-! ## The condition is enough -/

/-- Under the condition, an event that releases orphans is a `platform.start`. -/
theorem active_of_release {after : List TelemetryEvent} {log : IntakeLog}
    (starts : StartsRelease env.libraries events) (split : events = before ++ event :: after)
    (ran : Ran env fuel before state) (named : Names env.libraries event)
    (waits : log ∈ state.lambda.orphanLogs) :
    activeAfter state.lambda.requestId event ≠ "" := by
  rcases orphan_origin onDemand ran waits with ⟨earlier, origin, between, same, unnamed, idle, quiet⟩
  have whole : events = earlier ++ origin :: (between ++ event :: after) := by
    rw [split, same, List.append_assoc, List.cons_append]
  rcases starts.1 earlier origin _ whole unnamed idle with
    ⟨skipped, release, rest, other, silent, requestId, version, started⟩
  -- Both `event` and the start are the first event after the origin that carries an id.
  have carriesStart : Names env.libraries release := ⟨requestId, carriedId_start started⟩
  have first : release = event := by
    rcases List.append_eq_append_iff.mp other with ⟨extra, longer, rests⟩ | ⟨extra, shorter, rests⟩
    · cases extra with
      | nil =>
        exact (List.cons.inj rests).1.symm
      | cons =>
        have inside : event ∈ skipped := by
          rw [longer, (List.cons.inj rests).1]
          exact List.mem_append_right between List.mem_cons_self
        exact absurd named (silent event inside)
    · cases extra with
      | nil =>
        exact (List.cons.inj rests).1
      | cons =>
        have inside : release ∈ between := by
          rw [shorter, (List.cons.inj rests).1]
          exact List.mem_append_right skipped List.mem_cons_self
        exact absurd carriesStart (quiet release inside)
  rw [<- first]
  have nonempty := starts.2 release (by rw [whole, other]; simp)
  intro empty
  rw [activeAfter_start started] at empty
  exact nonempty (by rw [carriedId_start started, empty])

theorem queuedNamed_of_starts (starts : StartsRelease env.libraries events) :
    QueuedNamed env fuel events := by
  intro before event after state split ran log member
  have listed : event ∈ events := by rw [split]; simp
  -- A log is queued with its own id, or adopted under the active one.
  have adopted : forall (active : String) (queued : IntakeLog),
      queued.message.lambda.requestId ≠ some "" ->
      (forall orphan, orphan ∈ state.lambda.orphanLogs -> active ≠ "") ->
      log ∈ queued :: state.lambda.orphanLogs.map (LambdaProcessor.adopt active) ->
      log.message.lambda.requestId ≠ some "" := by
    intro active queued own others member
    rcases List.mem_cons.mp member with same | orphan
    · rw [same]
      exact own
    · rcases List.mem_map.mp orphan with ⟨orphan, waits, same⟩
      rw [<- same]
      exact fun empty => others orphan waits (Option.some.inj empty)
  cases carried : carriedId env.libraries event with
  | none =>
    rw [(LambdaProcessor.queuedLogs_of_silent carried state.lambda).1] at member
    cases member
  | some requestId =>
    cases requestId with
    | some requestId =>
      rcases (LambdaProcessor.queuedLogs_of_names onDemand carried state.lambda).2 with
        ⟨queued, own, list⟩
      rw [list] at member
      refine adopted _ queued ?_ ?_ member
      · rw [own]
        exact fun empty => starts.2 event listed (carried.trans (congrArg some empty))
      · exact fun orphan waits =>
          active_of_release onDemand starts split ran ⟨requestId, carried⟩ waits
    | none =>
      by_cases idle : state.lambda.requestId = ""
      · rw [(LambdaProcessor.queuedLogs_of_unnamed onDemand carried idle).1] at member
        cases member
      · rcases (LambdaProcessor.queuedLogs_of_active onDemand carried idle).2 with
          ⟨queued, own, list⟩
        rw [list] at member
        refine adopted _ queued ?_ (fun _ _ => idle) member
        rw [own]
        exact fun empty => idle (Option.some.inj empty)

theorem orphansSettled_of_starts (starts : StartsRelease env.libraries events) :
    OrphansSettled env fuel events := by
  intro before event after state log split ran orphaned
  rcases (LambdaProcessor.orphaned_iff onDemand orphaned.1).mp orphaned.2 with ⟨unnamed, idle⟩
  rcases starts.1 before event after split unnamed (by rw [<- ran_requestId ran, idle]) with
    ⟨between, release, rest, same, quiet, requestId, version, started⟩
  have carries : carriedId env.libraries release = some (some requestId) :=
    carriedId_start started
  have nonempty : requestId ≠ "" := by
    intro empty
    have listed : release ∈ events := by rw [split, same]; simp
    exact starts.2 release listed (by rw [carries, empty])
  refine ⟨between, release, rest, same, ?_, ?_⟩
  · intro early skipped late later parts ranLater
    have silent : forall other, other ∈ early -> ¬ Names env.libraries other := by
      intro other member
      exact quiet other (by rw [parts]; exact List.mem_append_left _ member)
    exact queuedLogs_of_idle onDemand (quiet skipped (by rw [parts]; simp))
      (orphan_waits onDemand ran orphaned silent ranLater).1
  · intro later ranLater
    have front := orphan_waits onDemand ran orphaned quiet ranLater
    refine ⟨requestId, nonempty, Or.inl carries, ?_⟩
    rcases (LambdaProcessor.queuedLogs_of_names onDemand carries later.lambda).2 with
      ⟨queued, _, list⟩
    rw [list, activeAfter_start started]
    exact List.mem_cons_of_mem _ (List.mem_map_of_mem front.2)

/-! ## The condition is necessary -/

/-- Nothing queued in between means that no event in between carried an id. -/
theorem silent_of_quiet {between rest : List TelemetryEvent} {final : LogsProcessor}
    (returns : Ran env fuel (before ++ (between ++ rest)) final)
    (quiet : forall early skipped late state, between = early ++ skipped :: late ->
      Ran env fuel (before ++ early) state -> state.lambda.queuedLogs env skipped = []) :
    forall other, other ∈ between -> ¬ Names env.libraries other := by
  rintro other member ⟨requestId, carried⟩
  rcases List.append_of_mem member with ⟨early, late, parts⟩
  rw [parts, List.append_assoc, <- List.append_assoc before] at returns
  rcases ran_append.mp returns with ⟨middle, ranMiddle, _⟩
  have nothing := quiet early other late middle parts ranMiddle
  rcases (LambdaProcessor.queuedLogs_of_names onDemand carried middle.lambda).2 with
    ⟨queued, _, list⟩
  rw [list] at nothing
  cases nothing

theorem starts_of_settled {final : LogsProcessor} (returns : Ran env fuel events final)
    (settled : OrphansSettled env fuel events) (named : QueuedNamed env fuel events) :
    StartsRelease env.libraries events := by
  constructor
  · intro before event after split unnamed idle
    have prefixes := returns
    rw [split] at prefixes
    rcases ran_append.mp prefixes with ⟨state, ran, _⟩
    have idleState : state.lambda.requestId = "" := by rw [ran_requestId ran, idle]
    rcases (LambdaProcessor.queuedLogs_of_unnamed onDemand unnamed idleState).2 with
      ⟨log, produced, waits, _⟩
    have orphaned : Orphaned env state event log := ⟨produced, waits⟩
    rcases settled before event after state log split ran orphaned with
      ⟨between, release, rest, same, quiet, released⟩
    have whole : before ++ event :: after = before ++ [event] ++ (between ++ release :: rest) := by
      rw [same, List.append_assoc, List.singleton_append]
    rw [whole] at prefixes
    have silent := silent_of_quiet onDemand prefixes quiet
    rw [<- List.append_assoc] at prefixes
    rcases ran_append.mp prefixes with ⟨later, ranLater, _⟩
    have front := orphan_waits onDemand ran orphaned silent ranLater
    rcases released later ranLater with ⟨requestId, _, _, queued⟩
    refine ⟨between, release, rest, same, silent, ?_⟩
    -- The release carries an id, and the orphan it queues gets the active one.
    have names : Names env.libraries release := by
      by_contra unnamed
      rw [queuedLogs_of_idle onDemand unnamed front.1] at queued
      cases queued
    rcases names with ⟨carried, carries⟩
    rcases (LambdaProcessor.queuedLogs_of_names onDemand carries later.lambda).2 with
      ⟨own, _, list⟩
    have adopted := named (before ++ [event] ++ between) release rest later
      (by rw [split, whole, <- List.append_assoc]) ranLater
      (LambdaProcessor.adopt (activeAfter later.lambda.requestId release) log)
      (by rw [list]; exact List.mem_cons_of_mem _ (List.mem_map_of_mem front.2))
    have active : activeAfter later.lambda.requestId release ≠ "" :=
      fun empty => adopted (congrArg some empty)
    rcases activeAfter_cases env.libraries later.lambda.requestId release with
      same | ⟨_, empty | ⟨version, started⟩⟩
    · exact absurd (same.trans front.1) active
    · exact absurd empty active
    · exact ⟨_, version, started⟩
  · intro event listed carried
    rcases List.append_of_mem listed with ⟨before, after, split⟩
    rw [split] at returns
    rcases ran_append.mp returns with ⟨state, ran, _⟩
    rcases (LambdaProcessor.queuedLogs_of_names onDemand carried state.lambda).2 with
      ⟨queued, own, list⟩
    exact named before event after state split ran queued (by rw [list]; exact List.mem_cons_self)
      own

omit onDemand

/-! ## The logs that leave -/

/-- Every log that is ready or aggregated has a request id other than the empty
one, or none. -/
def LeftNamed (text : IntakeLog -> String) (logs : LogsProcessor) : Prop :=
  Exists fun ready : List IntakeLog => Exists fun handed : List IntakeLog =>
    logs.lambda.buffers.readyLogs = ready.map text ∧
      logs.aggregator.flatten = handed.map text ∧
      forall log, log ∈ ready ++ handed -> log.message.lambda.requestId ≠ some ""

def requestIdOf (log : IntakeLog) : Option String := log.message.lambda.requestId

theorem requestIdOf_unseen (env : LogsEnv) (context : DurableExecutionContext) (log : IntakeLog) :
    requestIdOf (HeldLogs.withDurableContext env context log) = requestIdOf log := by
  simp only [HeldLogs.withDurableContext]
  split <;> split <;> rfl

theorem mem_bag {View : Type} {view : IntakeLog -> View} {logs : List IntakeLog} {seen : View} :
    seen ∈ bag view logs <-> Exists fun log => log ∈ logs ∧ view log = seen := by
  exact List.mem_map

/-- The rules leave the request id of a log. -/
theorem mem_keptBag {logs : List IntakeLog} {requestId : Option String}
    (member : requestId ∈ LambdaProcessor.keptBag requestIdOf env logs) :
    Exists fun log => log ∈ logs ∧ requestIdOf log = requestId := by
  rcases mem_bag.mp member with ⟨kept, listed, same⟩
  rcases List.mem_filterMap.mp listed with ⟨log, member, keeps⟩
  refine ⟨log, member, ?_⟩
  rw [LambdaProcessor.keep] at keeps
  split at keeps
  · rcases Option.map_eq_some_iff.mp keeps with ⟨text, _, made⟩
    rw [<- same, <- made]
    rfl
  · cases keeps

section Leaving

variable {text : IntakeLog -> String}
  (serializes : forall log, env.serialize log = some (text log))

include serializes

/-- What is queued with a request id leaves with it: the held logs are named too,
which carries the induction over the run. -/
theorem leftNamed_of_queuedNamed {events : List TelemetryEvent} {final : LogsProcessor}
    (returns : Ran env fuel events final) (named : QueuedNamed env fuel events) :
    LeftNamed text final ∧
      forall requestId, requestId ∈ final.lambda.buffers.content requestIdOf ->
        requestId ≠ some "" := by
  induction events using List.reverseRecOn generalizing final with
  | nil =>
    cases returns
    refine ⟨⟨[], [], rfl, rfl, fun log member => by cases member⟩, fun requestId member => ?_⟩
    exact absurd member (Multiset.notMem_zero requestId)
  | append_singleton events event ih =>
    rcases ran_snoc.mp returns with ⟨before, ran, processed⟩
    have earlier : QueuedNamed env fuel events := by
      intro first other rest state split
      exact named first other (rest ++ [event]) state (by rw [split]; simp)
    rcases ih ran earlier with ⟨⟨ready, handed, readyTexts, handedTexts, left⟩, held⟩
    rcases Option.map_eq_some_iff.mp processed with ⟨⟨batch, taken⟩, queuedTaken, inserted⟩
    rcases Option.map_eq_some_iff.mp queuedTaken with ⟨queued, queues, splits⟩
    cases splits
    rcases LambdaProcessor.queueEvent_transfers serializes
      (requestIdOf_unseen env.toLogsEnv) queues with ⟨pushed, pushedTexts, moved⟩
    -- What was pushed or is held now was held before or queued by this event.
    have fresh : forall requestId, requestId ∈ bag requestIdOf pushed +
        queued.buffers.content requestIdOf -> requestId ≠ some "" := by
      intro requestId member
      rw [moved] at member
      rcases Multiset.mem_add.mp member with old | new
      · exact held requestId old
      · rcases mem_keptBag new with ⟨log, listed, same⟩
        rw [<- same]
        exact named events event [] before rfl ran log listed
    rw [<- inserted]
    refine ⟨⟨[], handed ++ (ready ++ pushed), ?_, ?_, ?_⟩, ?_⟩
    · rw [insertBatch_lambda]
      rfl
    · rw [insertBatch_flatten, List.map_append, List.map_append, handedTexts, <- readyTexts,
        <- pushedTexts]
      rfl
    · intro log member
      rw [List.nil_append] at member
      rcases List.mem_append.mp member with old | new
      · exact left log (List.mem_append_right _ old)
      · rcases List.mem_append.mp new with old | last
        · exact left log (List.mem_append_left _ old)
        · exact fresh _ (Multiset.mem_add.mpr (Or.inl (mem_bag.mpr ⟨log, last, rfl⟩)))
    · intro requestId member
      rw [insertBatch_lambda] at member
      exact fresh requestId (Multiset.mem_add.mpr (Or.inr member))

end Leaving

end LogsProcessor
end Logs
end Bottlecap
