import Bottlecap.Foundations.Machine
import Bottlecap.Logs.Shutdown

namespace Bottlecap
namespace Extension

open Foundations Logs

/-!
# The shutdown sequence in the two modes

After the `Shutdown` event of `/next`, `extension_loop_active` goes through a fixed
sequence of steps, while the logs agent runs in a task of its own.  In On-Demand mode
the sequence cancels the agent, waits for its tombstone and makes the last flush
itself.  In Managed Instance mode the event is received by one task, the sequence is
gone through by another, and the last flush is made by a third, the periodic flusher,
when the token of the telemetry listener is cancelled.

A run is any interleaving of the tasks.  A wait for the tombstone may also end because
the event bus was idle for its timeout.  The steps do to the logs what they do in the
source: nothing, except for the cancellation of the agent and the last flush, which
takes from the aggregator what the agent has handed over by then.
-/

inductive Token where
  | apiRuntimeProxy
  | otlp
  | traceAgent
  | dogstatsd
  | telemetryListener
  | lifecycleListener
  | logsAgent
  | shutdown
  deriving DecidableEq

inductive ShutdownStep where
  | cancel (token : Token)
  | dropEventBusSender
  | awaitHandles
  | waitForTombstoneEvent
  | cancelBackgroundServices
  | flushBlockingFinal
  | resetFlushInterval
  | shutdownLogsAggregator
  | shutdownTraceAggregator
  | awaitFlushTask
  deriving DecidableEq

/-- What `cancel_background_services` cancels, where the first two exist. -/
def backgroundServices : List Token :=
  [.apiRuntimeProxy, .otlp, .traceAgent, .dogstatsd,
    .telemetryListener, .lifecycleListener]

def onDemandShutdown : List ShutdownStep :=
  [.cancel .telemetryListener, .cancel .logsAgent,
    .dropEventBusSender, .awaitHandles,
    .waitForTombstoneEvent, .cancelBackgroundServices,
    .flushBlockingFinal, .resetFlushInterval,
    .shutdownLogsAggregator, .shutdownTraceAggregator]

def managedShutdown : List ShutdownStep :=
  [.waitForTombstoneEvent, .cancelBackgroundServices,
    .awaitFlushTask]

/-- What the periodic flusher does once it sees its token cancelled. -/
def flusherShutdown : List ShutdownStep :=
  [.awaitHandles, .flushBlockingFinal]

/-! ## The logs agent, turn by turn -/

/-- Where `LogsAgent::spin` is: in its loop, in the drain of the telemetry channel, in
the drain of the updates, or past its tombstone.  An agent whose `hold_log` does not
return is stuck. -/
inductive AgentStage where
  | serving
  | draining
  | updating
  | finished
  | stuck
  deriving DecidableEq

structure Agent where
  stage : AgentStage
  logs : LogsProcessor

inductive AgentMove where
  | serve (input : AgentInput)
  | seeCancellation
  | drainEvent (event : TelemetryEvent)
  | closeChannel
  | drainUpdate (update : DurableContextUpdate)
  | drainHeldLogs

namespace Agent

def start : Agent where
  stage := .serving
  logs := LogsProcessor.new

/-- The agent after a call of `process` or of `process_durable_context_update`. -/
def take (agent : Agent) : Option LogsProcessor -> Agent
  | some logs => { agent with logs := logs }
  | none => { agent with stage := .stuck }

/-- One turn of the agent.  Its `select!` is not biased: it may go on serving inputs
after the cancellation. -/
def step (env : ProcessorEnv) (fuel : Nat) (cancelled : Bool) (agent : Agent) :
    AgentMove -> Agent
  | .serve input =>
    if agent.stage = .serving then agent.take (LogsAgent.step env fuel agent.logs input)
    else agent
  | .seeCancellation =>
    if agent.stage = .serving ∧ cancelled = true then
      { agent with stage := .draining }
    else agent
  | .drainEvent event =>
    if agent.stage = .draining then agent.take (agent.logs.process env fuel event)
    else agent
  | .closeChannel =>
    if agent.stage = .draining then { agent with stage := .updating }
    else agent
  | .drainUpdate update =>
    if agent.stage = .updating then
      { agent with logs := agent.logs.processDurableContextUpdate env update }
    else agent
  | .drainHeldLogs =>
    if agent.stage = .updating then
      { stage := .finished
        logs := LogsAgent.sendTombstone (agent.logs.drainHeldLogs env) }
    else agent

/-- The drain has been executed: nothing is held, and what was held when it began is
with the aggregator. -/
structure Drained (env : ProcessorEnv) (agent : Agent) : Prop where
  executed : agent.stage = .finished
  empty : agent.logs.lambda.buffers.heldLogs = ∅
  handed : Exists fun before : LogsProcessor =>
    agent.logs = LogsAgent.sendTombstone (before.drainHeldLogs env) ∧
      forall entry, entry ∈ before.lambda.buffers.heldLogs.entries ->
        forall log, log ∈ entry.2 -> forall text, env.serialize log = some text ->
          text ∈ agent.logs.aggregator.flatten

end Agent

/-! ## What the agent has done -/

/-- The stage in which a move can be made. -/
def AgentMove.stage : AgentMove -> AgentStage
  | serve _ => .serving
  | seeCancellation => .serving
  | drainEvent _ => .draining
  | closeChannel => .draining
  | drainUpdate _ => .updating
  | drainHeldLogs => .updating

namespace Agent

variable {env : ProcessorEnv} {fuel : Nat}

/-- The agent has come to its stage as `spin` does. -/
inductive Runs (env : ProcessorEnv) (fuel : Nat) : Agent -> Prop where
  | serving (selected : List AgentInput) (logs : LogsProcessor)
      (served : selected.foldlM (LogsAgent.step env fuel) LogsProcessor.new = some logs) :
      Runs env fuel ⟨.serving, logs⟩
  | draining (selected : List AgentInput) (drained : List TelemetryEvent)
      (served logs : LogsProcessor)
      (serves : selected.foldlM (LogsAgent.step env fuel) LogsProcessor.new = some served)
      (drains : drained.foldlM (fun (current : LogsProcessor) event =>
        current.process env fuel event) served = some logs) :
      Runs env fuel ⟨.draining, logs⟩
  | updating (selected : List AgentInput) (drained : List TelemetryEvent)
      (pending : List DurableContextUpdate) (served closed : LogsProcessor)
      (serves : selected.foldlM (LogsAgent.step env fuel) LogsProcessor.new = some served)
      (drains : drained.foldlM (fun (current : LogsProcessor) event =>
        current.process env fuel event) served = some closed) :
      Runs env fuel ⟨.updating, pending.foldl (fun (current : LogsProcessor) update =>
        current.processDurableContextUpdate env update) closed⟩
  | finished (selected : List AgentInput) (drained : List TelemetryEvent)
      (pending : List DurableContextUpdate) (logs : LogsProcessor)
      (spins : LogsAgent.spin env fuel selected drained pending LogsProcessor.new = some logs) :
      Runs env fuel ⟨.finished, logs⟩
  | stuck (logs : LogsProcessor) : Runs env fuel ⟨.stuck, logs⟩

variable {agent : Agent}

/-- A move of another stage is not made. -/
theorem step_of_other {move : AgentMove} (other : agent.stage ≠ move.stage) (cancelled : Bool) :
    agent.step env fuel cancelled move = agent := by
  cases move with
  | seeCancellation => exact if_neg (fun both => other both.1)
  | _ => exact if_neg other

theorem runs_step (runs : Runs env fuel agent) (cancelled : Bool) (move : AgentMove) :
    Runs env fuel (agent.step env fuel cancelled move) := by
  by_cases own : agent.stage = move.stage
  case neg =>
    rw [step_of_other own]
    exact runs
  have kept := runs
  cases move with
  | serve input =>
    cases runs with
    | serving selected logs served =>
      simp only [step]
      cases next : LogsAgent.step env fuel logs input with
      | none => exact .stuck logs
      | some after =>
        refine .serving (selected ++ [input]) after ?_
        rw [List.foldlM_append, served]
        exact (bind_pure _).trans next
    | _ => cases own
  | seeCancellation =>
    cases runs with
    | serving selected logs served =>
      simp only [step]
      split
      · exact .draining selected [] logs logs served rfl
      · exact kept
    | _ => cases own
  | drainEvent event =>
    cases runs with
    | draining selected drained served logs serves drains =>
      simp only [step]
      cases next : logs.process env fuel event with
      | none => exact .stuck logs
      | some after =>
        refine .draining selected (drained ++ [event]) served after serves ?_
        rw [List.foldlM_append, drains]
        exact (bind_pure _).trans next
    | _ => cases own
  | closeChannel =>
    cases runs with
    | draining selected drained served logs serves drains =>
      exact .updating selected drained [] served logs serves drains
    | _ => cases own
  | drainUpdate update =>
    cases runs with
    | updating selected drained pending served closed serves drains =>
      have more := Runs.updating selected drained (pending ++ [update]) served closed serves drains
      rw [List.foldl_append] at more
      exact more
    | _ => cases own
  | drainHeldLogs =>
    cases runs with
    | updating selected drained pending _ _ serves drains =>
      refine .finished selected drained pending _ ?_
      rw [LogsAgent.spin, serves]
      simp only [Option.bind_some, drains, Option.map_some]
    | _ => cases own

/-- The run of the agent ends with its drain. -/
theorem Runs.drained (runs : Runs env fuel agent) (finished : agent.stage = .finished) :
    agent.Drained env := by
  cases runs with
  | finished _ _ _ _ spins =>
    rcases LogsAgent.spin_drains spins with ⟨before, drains⟩
    subst drains
    exact ⟨rfl, (LogsAgent.drained_empty before).1, before, rfl,
      fun entry held log member text => LogsAgent.drained_handed held member⟩
  | serving | draining | updating | stuck => cases finished

theorem step_of_finished (finished : agent.stage = .finished) (cancelled : Bool)
    (move : AgentMove) : agent.step env fuel cancelled move = agent := by
  apply step_of_other
  rw [finished]
  cases move <;> exact nofun

/-- Without the cancellation the agent never comes to its drain. -/
theorem step_unasked (serving : agent.stage = .serving ∨ agent.stage = .stuck)
    (move : AgentMove) :
    (agent.step env fuel false move).stage = .serving ∨
      (agent.step env fuel false move).stage = .stuck := by
  cases move with
  | serve input =>
    simp only [step]
    split
    · cases LogsAgent.step env fuel agent.logs input with
      | none => exact Or.inr rfl
      | some => exact serving
    · exact serving
  | seeCancellation =>
    simp only [step, Bool.false_eq_true, and_false]
    exact serving
  | _ =>
    rw [step_of_other]
    · exact serving
    · rcases serving with stage | stage <;> rw [stage] <;> exact nofun

end Agent

/-! ## The tasks together -/

/-- A task that has not begun its sequence has no remaining steps. -/
structure ShutdownSystem where
  agent : Agent
  cancelled : List Token
  main : Option (List ShutdownStep)
  flusher : Option (List ShutdownStep)
  -- The agent as it was when the last flush took the log batches.
  final : Option Agent

inductive Move where
  | agent (move : AgentMove)
  | shutdownEvent
  | leaveEventLoop
  | main
  | busEvent (event : Event)
  | idle
  | flusher

namespace ShutdownSystem

def start : ShutdownSystem where
  agent := Agent.start
  cancelled := []
  main := none
  flusher := none
  final := none

def execute (system : ShutdownSystem) : ShutdownStep -> ShutdownSystem
  | .cancel token => { system with cancelled := token :: system.cancelled }
  | .cancelBackgroundServices =>
    { system with cancelled := backgroundServices ++ system.cancelled }
  | .flushBlockingFinal => { system with final := some system.agent }
  | _ => system

/-- A step that the main task can complete on its own. -/
def ready (system : ShutdownSystem) : ShutdownStep -> Bool
  | .waitForTombstoneEvent => false
  | .awaitFlushTask => system.flusher == some []
  | _ => true

def mainStep (system : ShutdownSystem) : ShutdownSystem :=
  match system.main with
  | some (step :: rest) =>
    if system.ready step then { system.execute step with main := some rest } else system
  | _ => system

/-- `'shutdown` of `wait_for_tombstone_event` is left. -/
def leaveWait (system : ShutdownSystem) : ShutdownSystem :=
  match system.main with
  | some (.waitForTombstoneEvent :: rest) => { system with main := some rest }
  | _ => system

def flusherStep (system : ShutdownSystem) : ShutdownSystem :=
  match system.flusher with
  | none =>
    if .telemetryListener ∈ system.cancelled then
      { system with flusher := some flusherShutdown }
    else system
  | some (step :: rest) => { system.execute step with flusher := some rest }
  | some [] => system

def step (env : ProcessorEnv) (fuel : Nat) (system : ShutdownSystem) : Move -> ShutdownSystem
  | .agent move =>
    let cancelled := decide (.logsAgent ∈ system.cancelled)
    { system with agent := system.agent.step env fuel cancelled move }
  | .shutdownEvent =>
    if system.main.isSome then system
    else if env.isManagedInstanceMode then
      { system with cancelled := .shutdown :: system.cancelled }
    else { system with main := some onDemandShutdown }
  | .leaveEventLoop =>
    if env.isManagedInstanceMode ∧ system.main = none ∧ .shutdown ∈ system.cancelled then
      { system with main := some managedShutdown }
    else system
  | .main => system.mainStep
  | .busEvent .tombstone =>
    if system.agent.stage = .finished then system.leaveWait else system
  | .busEvent _ => system
  | .idle => system.leaveWait
  | .flusher => if env.isManagedInstanceMode then system.flusherStep else system

/-- A wait does not end on its timeout while a drain that was asked for is not done. -/
def Timely (system : ShutdownSystem) : Move -> Prop
  | .idle =>
    .logsAgent ∈ system.cancelled -> system.agent.stage = .finished
  | _ => True

end ShutdownSystem

/-! ## The order of the steps -/

variable {rest : List ShutdownStep}

theorem suffix_rest {step : ShutdownStep} {all : List ShutdownStep}
    (suffix : step :: rest <:+ all) :
    rest <:+ all :=
  (List.suffix_cons step rest).trans suffix

/-- In On-Demand mode the last flush comes after the wait for the tombstone. -/
theorem waits_before_flush (suffix : .flushBlockingFinal :: rest <:+ onDemandShutdown) :
    .waitForTombstoneEvent ∉ .flushBlockingFinal :: rest := by
  have everywhere : forall steps, steps ∈ onDemandShutdown.tails ->
      steps.head? = some .flushBlockingFinal ->
        .waitForTombstoneEvent ∉ steps := by decide
  exact everywhere _ ((List.mem_tails _ _).mpr suffix) rfl

/-- It waits only once it has cancelled the agent. -/
theorem cancels_before_wait
    (suffix : .waitForTombstoneEvent :: rest <:+ onDemandShutdown) :
    .cancel .logsAgent ∉ .waitForTombstoneEvent :: rest := by
  have everywhere : forall steps, steps ∈ onDemandShutdown.tails ->
      steps.head? = some .waitForTombstoneEvent ->
        .cancel .logsAgent ∉ steps := by decide
  exact everywhere _ ((List.mem_tails _ _).mpr suffix) rfl

namespace ShutdownSystem

section Steps

variable (system : ShutdownSystem)

@[simp] theorem execute_agent (step : ShutdownStep) : (system.execute step).agent = system.agent := by
  cases step <;> rfl

@[simp] theorem execute_main (step : ShutdownStep) : (system.execute step).main = system.main := by
  cases step <;> rfl

@[simp] theorem execute_flusher (step : ShutdownStep) :
    (system.execute step).flusher = system.flusher := by
  cases step <;> rfl

/-- A token once cancelled stays so. -/
theorem mem_cancelled_execute {token : Token} (cancelled : token ∈ system.cancelled)
    (step : ShutdownStep) : token ∈ (system.execute step).cancelled := by
  cases step with
  | cancel other => exact List.mem_cons_of_mem other cancelled
  | cancelBackgroundServices => exact List.mem_append_right backgroundServices cancelled
  | _ => exact cancelled

/-- Only one step cancels the agent. -/
theorem spared_execute (spared : .logsAgent ∉ system.cancelled) {step : ShutdownStep}
    (other : step ≠ .cancel .logsAgent) :
    .logsAgent ∉ (system.execute step).cancelled := by
  cases step with
  | cancel =>
    intro member
    rcases List.mem_cons.mp member with same | old
    · exact other (congrArg ShutdownStep.cancel same.symm)
    · exact spared old
  | cancelBackgroundServices =>
    intro member
    rcases List.mem_append.mp member with background | old
    · exact absurd background (by decide)
    · exact spared old
  | _ => exact spared

/-- Only one step flushes, and it sees the agent as it is. -/
theorem final_execute {step : ShutdownStep} {agent : Agent}
    (flushed : (system.execute step).final = some agent) :
    system.final = some agent ∨ step = .flushBlockingFinal ∧ agent = system.agent := by
  cases step with
  | flushBlockingFinal => exact Or.inr ⟨rfl, (Option.some.inj flushed).symm⟩
  | _ => exact Or.inl flushed

/-- The main task completes its next step, or stays where it is. -/
theorem mainStep_cases :
    system.mainStep = system ∨
      Exists fun step => Exists fun rest =>
        system.main = some (step :: rest) ∧ step ≠ .waitForTombstoneEvent ∧
          system.mainStep = { system.execute step with main := some rest } := by
  rw [mainStep]
  split
  case h_1 step rest current =>
      cases ready : system.ready step with
      | false => exact Or.inl (if_neg Bool.false_ne_true)
      | true =>
        refine Or.inr ⟨step, rest, current, ?_, if_pos rfl⟩
        rintro rfl
        cases ready
  case h_2 => exact Or.inl rfl

theorem leaveWait_cases :
    system.leaveWait = system ∨
      Exists fun rest => system.main = some (.waitForTombstoneEvent :: rest) ∧
          system.leaveWait = { system with main := some rest } := by
  rw [leaveWait]
  split
  case h_1 rest current => exact Or.inr ⟨rest, current, rfl⟩
  case h_2 => exact Or.inl rfl

end Steps

/-! ## On-Demand mode -/

/-- What holds throughout a run in On-Demand mode: once the wait is over, the agent is
finished. -/
structure OnDemand (env : ProcessorEnv) (fuel : Nat) (system : ShutdownSystem) : Prop where
  runs : system.agent.Runs env fuel
  order : forall rest, system.main = some rest -> rest <:+ onDemandShutdown
  asked : forall rest, system.main = some rest ->
    .cancel .logsAgent ∉ rest -> .logsAgent ∈ system.cancelled
  waited : forall rest, system.main = some rest ->
    .waitForTombstoneEvent ∉ rest -> system.agent.stage = .finished
  drained : forall agent, system.final = some agent -> agent.Drained env

section OnDemand

variable {env : ProcessorEnv} {fuel : Nat} {system : ShutdownSystem}

theorem OnDemand.agentStep (onDemand : OnDemand env fuel system) (cancelled : Bool)
    (move : AgentMove) :
    OnDemand env fuel { system with agent := system.agent.step env fuel cancelled move } := by
  constructor
  case runs => exact Agent.runs_step onDemand.runs cancelled move
  case order => exact onDemand.order
  case asked => exact onDemand.asked
  case drained => exact onDemand.drained
  case waited =>
    intro rest current past
    have finished := onDemand.waited rest current past
    rw [Agent.step_of_finished finished]
    exact finished

theorem OnDemand.leaveWait (onDemand : OnDemand env fuel system)
    (timely : .logsAgent ∈ system.cancelled -> system.agent.stage = .finished) :
    OnDemand env fuel system.leaveWait := by
  rcases system.leaveWait_cases with same | ⟨rest, current, left⟩
  · rw [same]
    exact onDemand
  · rw [left]
    have suffix := onDemand.order _ current
    have asked := onDemand.asked _ current (cancels_before_wait suffix)
    constructor
    case runs => exact onDemand.runs
    case order => rintro _ ⟨⟩; exact suffix_rest suffix
    case asked => exact fun _ _ _ => asked
    case waited => exact fun _ _ _ => timely asked
    case drained => exact onDemand.drained

theorem OnDemand.mainStep (onDemand : OnDemand env fuel system) :
    OnDemand env fuel system.mainStep := by
  rcases system.mainStep_cases with same | ⟨step, rest, current, noWait, done⟩
  · rw [same]
    exact onDemand
  · rw [done]
    have suffix := onDemand.order _ current
    have finished : .waitForTombstoneEvent ∉ rest ->
        system.agent.stage = .finished := by
      intro past
      apply onDemand.waited _ current
      rintro (_ | ⟨_, later⟩)
      · exact noWait rfl
      · exact past later
    constructor
    case runs =>
      rw [execute_agent]
      exact onDemand.runs
    case order => rintro _ ⟨⟩; exact suffix_rest suffix
    case asked =>
      rintro _ ⟨⟩ past
      by_cases cancels : step = .cancel .logsAgent
      · subst cancels
        exact List.mem_cons_self
      · apply mem_cancelled_execute
        apply onDemand.asked _ current
        rintro (_ | ⟨_, later⟩)
        · exact cancels rfl
        · exact past later
    case waited =>
      rintro _ ⟨⟩ past
      rw [execute_agent]
      exact finished past
    case drained =>
      intro agent flushed
      rcases system.final_execute flushed with earlier | ⟨rfl, rfl⟩
      · exact onDemand.drained agent earlier
      · exact onDemand.runs.drained
          (onDemand.waited _ current (waits_before_flush suffix))

theorem OnDemand.step (mode : env.isManagedInstanceMode = false)
    (onDemand : OnDemand env fuel system) {move : Move} (timely : system.Timely move) :
    OnDemand env fuel (system.step env fuel move) := by
  cases move with
  | agent move => exact onDemand.agentStep _ move
  | main => exact onDemand.mainStep
  | idle => exact onDemand.leaveWait timely
  | flusher | leaveEventLoop =>
    simp only [ShutdownSystem.step, mode]
    exact onDemand
  | busEvent event =>
    cases event with
    | tombstone =>
      simp only [ShutdownSystem.step]
      split
      case isTrue finished => exact onDemand.leaveWait (fun _ => finished)
      case isFalse => exact onDemand
    | _ => exact onDemand
  | shutdownEvent =>
    simp only [ShutdownSystem.step, mode]
    split
    · exact onDemand
    · constructor
      case runs => exact onDemand.runs
      case order => rintro _ ⟨⟩; exact List.suffix_rfl
      case asked => rintro _ ⟨⟩ past; exact absurd (by decide) past
      case waited => rintro _ ⟨⟩ past; exact absurd (by decide) past
      case drained => exact onDemand.drained

end OnDemand

/-! ## Managed Instance mode -/

/-- What holds throughout a run in Managed Instance mode: nobody asks for the drain. -/
structure Managed (system : ShutdownSystem) : Prop where
  order : forall rest, system.main = some rest ->
    .cancel .logsAgent ∉ rest
  flusherOrder : forall rest, system.flusher = some rest ->
    .cancel .logsAgent ∉ rest
  spared : .logsAgent ∉ system.cancelled
  serving : system.agent.stage = .serving ∨ system.agent.stage = .stuck
  undrained : forall agent, system.final = some agent -> agent.stage ≠ .finished

section Managed

variable {env : ProcessorEnv} {fuel : Nat} {system : ShutdownSystem}

theorem Managed.unfinished (managed : Managed system) :
    system.agent.stage ≠ .finished := by
  rcases managed.serving with stage | stage <;> rw [stage] <;> decide

/-- A step other than the cancellation of the agent keeps the invariant, whichever task
executes it. -/
theorem Managed.execute (managed : Managed system) {step : ShutdownStep}
    (other : step ≠ .cancel .logsAgent) (main flusher : Option (List ShutdownStep))
    (mainOrder : forall rest, main = some rest -> .cancel .logsAgent ∉ rest)
    (flusherOrder : forall rest, flusher = some rest ->
      .cancel .logsAgent ∉ rest) :
    Managed { system.execute step with main := main, flusher := flusher } := by
  constructor
  case order => exact mainOrder
  case flusherOrder => exact flusherOrder
  case spared => exact system.spared_execute managed.spared other
  case serving =>
    rw [execute_agent]
    exact managed.serving
  case undrained =>
    intro agent flushed
    rcases system.final_execute flushed with earlier | ⟨_, rfl⟩
    · exact managed.undrained agent earlier
    · exact managed.unfinished

theorem Managed.mainStep (managed : Managed system) : Managed system.mainStep := by
  rcases system.mainStep_cases with same | ⟨step, rest, current, _, done⟩
  · rw [same]
    exact managed
  · rw [done]
    have order := managed.order _ current
    have flusherOrder : forall steps, (system.execute step).flusher = some steps ->
        .cancel .logsAgent ∉ steps := by
      rw [execute_flusher]
      exact managed.flusherOrder
    refine managed.execute (fun same => order (same ▸ List.mem_cons_self)) _ _ ?_ flusherOrder
    rintro _ ⟨⟩ later
    exact order (List.mem_cons_of_mem step later)

theorem Managed.leaveWait (managed : Managed system) : Managed system.leaveWait := by
  rcases system.leaveWait_cases with same | ⟨rest, current, left⟩
  · rw [same]
    exact managed
  · rw [left]
    refine ⟨?_, managed.flusherOrder, managed.spared, managed.serving, managed.undrained⟩
    rintro _ ⟨⟩ later
    exact managed.order _ current (List.mem_cons_of_mem _ later)

theorem Managed.flusherStep (managed : Managed system) : Managed system.flusherStep := by
  rw [ShutdownSystem.flusherStep]
  split
  case h_1 =>
    split
    · refine ⟨managed.order, ?_, managed.spared, managed.serving, managed.undrained⟩
      rintro _ ⟨⟩
      decide
    · exact managed
  case h_2 step rest current =>
    have order := managed.flusherOrder _ current
    have mainOrder : forall steps, (system.execute step).main = some steps ->
        .cancel .logsAgent ∉ steps := by
      rw [execute_main]
      exact managed.order
    refine managed.execute (fun same => order (same ▸ List.mem_cons_self)) _ _ mainOrder ?_
    rintro _ ⟨⟩ later
    exact order (List.mem_cons_of_mem step later)
  case h_3 => exact managed

theorem Managed.step (mode : env.isManagedInstanceMode = true) (managed : Managed system)
    (move : Move) : Managed (system.step env fuel move) := by
  cases move with
  | agent move =>
    have unasked : decide (.logsAgent ∈ system.cancelled) = false :=
      decide_eq_false managed.spared
    simp only [ShutdownSystem.step, unasked]
    exact ⟨managed.order, managed.flusherOrder, managed.spared,
      Agent.step_unasked managed.serving move, managed.undrained⟩
  | main => exact managed.mainStep
  | idle => exact managed.leaveWait
  | flusher =>
    simp only [ShutdownSystem.step, mode]
    exact managed.flusherStep
  | leaveEventLoop =>
    simp only [ShutdownSystem.step]
    split
    · refine ⟨?_, managed.flusherOrder, managed.spared, managed.serving, managed.undrained⟩
      rintro _ ⟨⟩
      decide
    · exact managed
  | busEvent event =>
    cases event with
    | tombstone =>
      simp only [ShutdownSystem.step, if_neg managed.unfinished]
      exact managed
    | _ => exact managed
  | shutdownEvent =>
    simp only [ShutdownSystem.step]
    split
    · exact managed
    · refine ⟨managed.order, managed.flusherOrder, ?_, managed.serving, managed.undrained⟩
      rintro (_ | ⟨_, old⟩)
      exact managed.spared old

end Managed

/-! ## The drain and the last flush -/

section LastFlush

variable {env : ProcessorEnv} {fuel : Nat}

theorem onDemand_start : OnDemand env fuel start := by
  constructor
  case runs => exact .serving [] LogsProcessor.new rfl
  case order => exact nofun
  case asked => exact nofun
  case waited => exact nofun
  case drained => exact nofun

theorem managed_start : Managed start :=
  ⟨nofun, nofun, List.not_mem_nil, Or.inl rfl, nofun⟩

/-- In a run whose waits are long enough for a drain that was asked for, the agent has
been drained before the last flush exactly if the mode is On-Demand. -/
theorem drained_before_final_iff {moves : List Move}
    (timely : Machine.Along (step env fuel) Timely start moves) {agent : Agent}
    (flushed : (moves.foldl (step env fuel) start).final = some agent) :
    agent.Drained env <-> env.isManagedInstanceMode = false := by
  cases mode : env.isManagedInstanceMode with
  | false =>
    have onDemand : OnDemand env fuel (moves.foldl (step env fuel) start) :=
      timely.invariant (fun _ _ onDemand timely => onDemand.step mode timely) onDemand_start
    exact iff_of_true (onDemand.drained agent flushed) rfl
  | true =>
    have managed : Managed (moves.foldl (step env fuel) start) :=
      timely.invariant (fun _ move managed _ => managed.step mode move) managed_start
    exact iff_of_false (fun drained => managed.undrained agent flushed drained.executed)
      Bool.false_ne_true.symm

/-- A log of an invocation is held, and the shutdown drains it. -/
theorem drained_before_final_iff_on_demand :
    let moves := [.agent (.serve (.event (TelemetryEvent.start "r1"))),
      .shutdownEvent, .main, .main, .main,
      .agent .seeCancellation, .agent .closeChannel,
      .agent .drainHeldLogs, .main, .busEvent .tombstone, .main,
      .main]
    Exists fun agent : Agent =>
      (moves.foldl (step (ProcessorEnv.plain true) 1) start).final = some agent ∧
        agent.Drained (ProcessorEnv.plain true) := by
  intro moves
  have flushes : (moves.foldl (step (ProcessorEnv.plain true) 1) start).final.isSome = true := by
    decide +kernel
  have timely : Machine.Along (step (ProcessorEnv.plain true) 1) Timely start moves := by
    all_goals trivial
  rcases Option.isSome_iff_exists.mp flushes with ⟨agent, flushed⟩
  exact ⟨agent, flushed, (drained_before_final_iff timely flushed).mpr rfl⟩

/-- In Managed Instance mode the log of an invocation of a durable function is still
held when the last flush takes the batches. -/
theorem held_log_lost_in_managed_mode :
    ¬ forall (env : ProcessorEnv) (fuel : Nat) (moves : List Move) (agent : Agent),
      Machine.Along (step env fuel) Timely start moves ->
        (moves.foldl (step env fuel) start).final = some agent -> agent.Drained env := by
  intro always
  let env := { ProcessorEnv.plain true with isManagedInstanceMode := true }
  let initStart : TelemetryEvent := ⟨0, .platformInitStart
    .managedInstance .init (some "DurableFunction") none⟩
  let moves := [.agent (.serve (.event initStart)),
    .agent (.serve (.event (TelemetryEvent.start "r1"))),
    .shutdownEvent, .leaveEventLoop, .idle, .main, .flusher, .flusher,
    Move.flusher]
  have flushes : (moves.foldl (step env 1) start).final.any
      (fun agent => agent.logs.lambda.buffers.heldLogs.keys == ["r1"]) = true := by
    decide +kernel
  have timely : Machine.Along (step env 1) Timely start moves := by
    refine ⟨trivial, trivial, trivial, trivial, ?_, trivial, trivial, trivial, trivial, trivial⟩
    intro asked
    exact absurd asked (by decide +kernel)
  rcases (Option.any_eq_true _ _).mp flushes with ⟨agent, flushed, held⟩
  have drained := always env 1 moves agent timely flushed
  rw [drained.empty] at held
  cases held

end LastFlush

end ShutdownSystem
end Extension
end Bottlecap
