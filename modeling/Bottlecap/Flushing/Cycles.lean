import Bottlecap.Flushing.Rounds
import Bottlecap.Foundations.Machine

namespace Bottlecap
namespace Flushing

open Foundations Logs

/-!
# Flush cycles

The Continuous branch of the On-Demand loop and the flusher task of Managed Instance mode
(`extension_loop_active` in `bin/bottlecap/main.rs`) both spawn a flush in each cycle that
finds nothing pending, and await the handles when they shut down.  Tasks finish in between,
in any order.  Blocking flushes leave the handles alone.
-/

/-- The vector of `FlushHandles` that a task's handle is in. -/
inductive TaskKind where
  | traces
  | logs
  | metrics
  | proxy
  | stats
  deriving DecidableEq

variable {Chunk Stat Body Series Sketch : Type}

/-- The task of the handle at a position ends. -/
def finishAt {Output : Type} (idx : Nat) (handles : List (JoinHandle Output)) :
    List (JoinHandle Output) :=
  handles.modify idx (fun handle => { handle with finished := true })

namespace FlushHandles

variable (handles : FlushHandles Chunk Stat Body Series Sketch)

def finish (idx : Nat) : TaskKind -> FlushHandles Chunk Stat Body Series Sketch
  | .traces =>
    { handles with traceFlushHandles := finishAt idx handles.traceFlushHandles }
  | .logs => { handles with logFlushHandles := finishAt idx handles.logFlushHandles }
  | .metrics =>
    { handles with metricFlushHandles := finishAt idx handles.metricFlushHandles }
  | .proxy => { handles with proxyFlushHandles := finishAt idx handles.proxyFlushHandles }
  | .stats => { handles with statsFlushHandles := finishAt idx handles.statsFlushHandles }

/-- How many handles are retained. -/
def count : Nat :=
  handles.traceFlushHandles.length + handles.logFlushHandles.length +
    handles.metricFlushHandles.length + handles.proxyFlushHandles.length +
    handles.statsFlushHandles.length

/-- The handles of the tasks that have ended. -/
def ended : FlushHandles Chunk Stat Body Series Sketch :=
  ⟨handles.traceFlushHandles.filter JoinHandle.finished,
    handles.logFlushHandles.filter JoinHandle.finished,
    handles.metricFlushHandles.filter JoinHandle.finished,
    handles.proxyFlushHandles.filter JoinHandle.finished,
    handles.statsFlushHandles.filter JoinHandle.finished⟩

end FlushHandles

/-- The redrive has something to send again. -/
def Redrive.carries : Redrive Chunk Stat Body Series Sketch -> Bool
  | .proxy batch => !batch.isEmpty
  | _ => true

/-- The redrives of the failed payloads that finished flushes have returned. -/
def FlushHandles.owed (handles : FlushHandles Chunk Stat Body Series Sketch) :
    List (Redrive Chunk Stat Body Series Sketch) :=
  handles.ended.redrives.filter Redrive.carries

/-- What happens to the loop and to the tasks it has spawned. -/
inductive LoopEvent (Chunk Stat Body Series Sketch : Type) where
  | cycle (round : Round Chunk Stat Body Series Sketch)
  | finish (kind : TaskKind) (idx : Nat)
  | shutdown

structure LoopState (Chunk Stat Body Series Sketch : Type) where
  service : FlushingService Chunk Stat Body Series Sketch
  /-- How many flushes have been spawned. -/
  spawned : Nat
  /-- The redrives that `await_handles` has spawned. -/
  redriven : List (Redrive Chunk Stat Body Series Sketch)
  running : Bool

namespace LoopState

/-- A panic in a cycle aborts the process, and its handles are gone. -/
def cycle (utils : TraceUtils Chunk) (round : Round Chunk Stat Body Series Sketch)
    (state : LoopState Chunk Stat Body Series Sketch) : LoopState Chunk Stat Body Series Sketch :=
  if !state.service.hasPendingHandles then
    match state.service.spawnNonBlocking utils round with
    | some service => { state with service := service, spawned := state.spawned + 1 }
    | none =>
      { state with
        service := { state.service with handles := FlushHandles.new }
        running := false }
  else state

def step (utils : TraceUtils Chunk) (state : LoopState Chunk Stat Body Series Sketch) :
    LoopEvent Chunk Stat Body Series Sketch -> LoopState Chunk Stat Body Series Sketch
  | .cycle round => if state.running then state.cycle utils round else state
  | .finish kind idx =>
    { state with
      service := { state.service with handles := state.service.handles.finish idx kind } }
  | .shutdown =>
    if state.running then
      let awaited := state.service.awaitHandles
      { state with
        service := awaited.service
        redriven := state.redriven ++ awaited.redrives
        running := false }
    else state

/-- The loop begins with a service that has spawned nothing. -/
def initial (service : FlushingService Chunk Stat Body Series Sketch) :
    LoopState Chunk Stat Body Series Sketch :=
  ⟨{ service with handles := FlushHandles.new }, 0, [], true⟩

/-- The event is a cycle that spawns a flush. -/
def Spawns (state : LoopState Chunk Stat Body Series Sketch) :
    LoopEvent Chunk Stat Body Series Sketch -> Prop
  | .cycle round =>
    state.running = true ∧ state.service.hasPendingHandles = false ∧
      round.metrics.flush.isSome = true
  | _ => False

/-- The event is a cycle that finds failed payloads of a finished flush. -/
def FindsFailed (state : LoopState Chunk Stat Body Series Sketch) :
    LoopEvent Chunk Stat Body Series Sketch -> Prop
  | .cycle _ => state.running = true ∧ state.service.handles.owed ≠ []
  | _ => False

/-- At the end of a cycle the failed payloads that finished flushes had returned before it
have been redriven. -/
def RedrivenInTime (utils : TraceUtils Chunk) (state : LoopState Chunk Stat Body Series Sketch)
    (event : LoopEvent Chunk Stat Body Series Sketch) : Prop :=
  match event with
  | .cycle _ =>
    state.running = true -> forall task, task ∈ state.service.handles.owed ->
      task ∈ (state.step utils event).redriven
  | _ => True

end LoopState

/-! ## The number of handles -/

section Counting

variable {handles : FlushHandles Chunk Stat Body Series Sketch}

theorem count_finish (idx : Nat) (kind : TaskKind) : (handles.finish idx kind).count = handles.count := by
  cases kind <;> simp [FlushHandles.finish, FlushHandles.count, finishAt]

theorem count_new : (FlushHandles.new : FlushHandles Chunk Stat Body Series Sketch).count = 0 := rfl

variable {service after : FlushingService Chunk Stat Body Series Sketch} {utils : TraceUtils Chunk}
variable {round : Round Chunk Stat Body Series Sketch}

/-- A spawn adds a handle for each flusher. -/
theorem count_spawn (spawned : service.spawnNonBlocking utils round = some after) :
    after.handles.count = service.handles.count + (4 + service.metricsFlushers) ∧
      after.metricsFlushers = service.metricsFlushers := by
  rcases spawnNonBlocking_result spawned with ⟨metric, rfl⟩
  refine ⟨?_, rfl⟩
  simp only [FlushHandles.count, List.length_append, List.length_cons, List.length_nil,
    List.length_map, List.length_range]
  omega

theorem spawnNonBlocking_isSome :
    (service.spawnNonBlocking utils round).isSome = round.metrics.flush.isSome := by
  rw [FlushingService.spawnNonBlocking]
  cases round.metrics.flush <;> rfl

end Counting

/-! ## Runs of the loop -/

section Runs

variable {utils : TraceUtils Chunk} {flushers bound : Nat}

/-- While the loop runs, nothing is redriven, and every flush that was spawned has left its
handles. -/
structure LoopState.Accounted (flushers : Nat) (state : LoopState Chunk Stat Body Series Sketch) :
    Prop where
  same : state.service.metricsFlushers = flushers
  running : state.running = true ->
    state.service.handles.count = state.spawned * (4 + flushers) ∧ state.redriven = []
  stopped : state.running = false -> state.service.handles.count = 0

variable {state : LoopState Chunk Stat Body Series Sketch}

/-- What a cycle of a running loop does: it spawns, aborts, or finds something pending. -/
theorem cycle_cases (utils : TraceUtils Chunk) (round : Round Chunk Stat Body Series Sketch)
    (running : state.running = true) :
    (state.Spawns (.cycle round) ∧
        Exists fun after => state.service.spawnNonBlocking utils round = some after ∧
            state.step utils (.cycle round) =
              { state with service := after, spawned := state.spawned + 1 }) ∨
      (¬ state.Spawns (.cycle round) ∧
        (state.step utils (.cycle round) = state ∨
          state.step utils (.cycle round) =
            { state with
              service := { state.service with handles := FlushHandles.new }
              running := false })) := by
  have known : (state.service.spawnNonBlocking utils round).isSome = round.metrics.flush.isSome :=
    spawnNonBlocking_isSome
  simp only [LoopState.step, running, LoopState.cycle, LoopState.Spawns]
  cases waiting : state.service.hasPendingHandles with
  | true => simp
  | false =>
    cases spawned : state.service.spawnNonBlocking utils round with
    | none | some =>
      rw [spawned] at known
      simp [<- known]

theorem accounted_step (accounted : state.Accounted flushers)
    (event : LoopEvent Chunk Stat Body Series Sketch) :
    (state.step utils event).Accounted flushers := by
  cases event with
  | cycle round =>
    cases running : state.running with
    | false =>
      have stays : state.step utils (.cycle round) = state := by
        simp [LoopState.step, running]
      rw [stays]
      exact accounted
    | true =>
      rcases cycle_cases utils round running with ⟨_, after, spawned, next⟩ | ⟨_, same | aborted⟩
      · rcases count_spawn spawned with ⟨count, same⟩
        rw [next]
        refine ⟨same.trans accounted.same, ?_, ?_⟩
        · intro _
          refine ⟨?_, (accounted.running running).2⟩
          rw [count, (accounted.running running).1, accounted.same, <- Nat.succ_mul]
        · intro halted
          exact absurd (running.symm.trans halted) (by decide)
      · rw [same]
        exact accounted
      · rw [aborted]
        exact ⟨accounted.same, fun halted => Bool.noConfusion halted, fun _ => count_new⟩
  | finish kind idx =>
    refine ⟨accounted.same, ?_, ?_⟩
    · intro running
      exact ⟨(count_finish idx kind).trans (accounted.running running).1,
        (accounted.running running).2⟩
    · intro halted
      exact (count_finish idx kind).trans (accounted.stopped halted)
  | shutdown =>
    rw [LoopState.step]
    split
    · exact ⟨accounted.same, fun halted => Bool.noConfusion halted, fun _ => count_new⟩
    · exact accounted

/-- A step keeps within the bound and redrives in time exactly if it spawns no flush beyond
the bound and finds no failed payloads. -/
theorem bounded_step_iff (accounted : state.Accounted flushers)
    (within : state.service.handles.count <= bound * (4 + flushers))
    (event : LoopEvent Chunk Stat Body Series Sketch) :
    (state.step utils event).service.handles.count <= bound * (4 + flushers) ∧
        state.RedrivenInTime utils event <->
      (state.Spawns event -> state.spawned < bound) ∧ ¬ state.FindsFailed event := by
  cases event with
  | finish kind idx =>
    refine iff_of_true ⟨?_, trivial⟩ ⟨fun spawns => spawns.elim, fun finds => finds.elim⟩
    exact (count_finish idx kind).le.trans within
  | shutdown =>
    refine iff_of_true ⟨?_, trivial⟩ ⟨fun spawns => spawns.elim, fun finds => finds.elim⟩
    rw [LoopState.step]
    split
    · exact Nat.zero_le _
    · exact within
  | cycle round =>
    cases running : state.running with
    | false =>
      have stays : state.step utils (.cycle round) = state := by
        simp [LoopState.step, running]
      refine iff_of_true ⟨?_, fun runs => absurd (running.symm.trans runs) (by decide)⟩
        ⟨fun spawns => absurd (running.symm.trans spawns.1) (by decide),
          fun finds => absurd (running.symm.trans finds.1) (by decide)⟩
      rw [stays]
      exact within
    | true =>
      have late : state.RedrivenInTime utils (.cycle round) <->
          ¬ state.FindsFailed (.cycle round) := by
        have kept : (state.step utils (.cycle round)).redriven = [] := by
          rcases cycle_cases utils round running with ⟨_, after, _, next⟩ | ⟨_, same | aborted⟩
          · rw [next]
            exact (accounted.running running).2
          · rw [same]
            exact (accounted.running running).2
          · rw [aborted]
            exact (accounted.running running).2
        simp only [LoopState.RedrivenInTime, LoopState.FindsFailed, kept, running, List.not_mem_nil,
          true_and, forall_true_left, not_not]
        exact List.eq_nil_iff_forall_not_mem.symm
      refine and_congr ?_ late
      rcases cycle_cases utils round running with ⟨spawns, after, spawned, next⟩ | ⟨idle, same | aborted⟩
      · rcases count_spawn spawned with ⟨count, _⟩
        rw [next]
        rw [count, (accounted.running running).1, accounted.same, <- Nat.succ_mul,
          Nat.mul_le_mul_right_iff (by omega)]
        exact ⟨fun le _ => le, fun less => less spawns⟩
      · rw [same]
        exact iff_of_true within (fun spawns => absurd spawns idle)
      · rw [aborted]
        exact iff_of_true (Nat.zero_le _) (fun spawns => absurd spawns idle)

/-- Over a run of the loop the handles stay within those of `bound` flushes, and failed
payloads are redriven no later than the next cycle, exactly if no more than `bound` cycles
spawn a flush and no cycle finds failed payloads of a finished flush. -/
theorem retained_bounded_iff (service : FlushingService Chunk Stat Body Series Sketch) (bound : Nat)
    (events : List (LoopEvent Chunk Stat Body Series Sketch)) :
    Machine.Always (LoopState.step utils)
          (fun state => state.service.handles.count <= bound * (4 + service.metricsFlushers))
          (LoopState.initial service) events ∧
        Machine.Along (LoopState.step utils) (LoopState.RedrivenInTime utils)
          (LoopState.initial service) events <->
      Machine.Along (LoopState.step utils)
        (fun state event => (state.Spawns event -> state.spawned < bound) ∧ ¬ state.FindsFailed event)
        (LoopState.initial service) events := by
  have accounted : (LoopState.initial service).Accounted service.metricsFlushers :=
    ⟨rfl, fun _ => ⟨(Nat.zero_mul _).symm, rfl⟩, fun halted => Bool.noConfusion halted⟩
  have stays : forall (state : LoopState Chunk Stat Body Series Sketch) event,
      state.Accounted service.metricsFlushers ->
        (state.step utils event).Accounted service.metricsFlushers :=
    fun state event kept => accounted_step kept event
  have within : (LoopState.initial service).service.handles.count <=
      bound * (4 + service.metricsFlushers) := Nat.zero_le _
  exact Machine.always_and_along_iff stays
    (fun state event kept within => bounded_step_iff kept within event) accounted within events

end Runs

/-! ## Cycles that pile up -/

section PileUp

/-- A finished flush behind finished flushes leaves nothing pending. -/
theorem pending_finishAt {Output : Type} (handles : List (JoinHandle Output))
    (handle : JoinHandle Output) (none : pending handles = false) :
    pending (finishAt handles.length (handles ++ [handle])) = false := by
  induction handles with
  | nil => rfl
  | cons _ _ ih =>
    rw [pending, List.any_cons, Bool.or_eq_false_iff] at none
    rw [List.length_cons, List.cons_append, finishAt, List.modify_succ_cons, pending, List.any_cons,
      none.1]
    exact ih none.2

/-- A cycle, and the end of the five tasks that it spawns as the flush of that number. -/
def LoopEvent.cycleAndFinish (round : Round Nat Nat Nat Nat Nat) (number : Nat) :
    List (LoopEvent Nat Nat Nat Nat Nat) :=
  [.cycle round, .finish .traces number,
    .finish .logs number, .finish .metrics number,
    .finish .proxy number, .finish .stats number]

/-- As many such cycles, one after the other. -/
def LoopEvent.cycles (round : Round Nat Nat Nat Nat Nat) : Nat -> List (LoopEvent Nat Nat Nat Nat Nat)
  | 0 => []
  | number + 1 => cycles round number ++ cycleAndFinish round number

/-- The vector has a handle of each flush, and all of them have finished. -/
def AllFinished {Output : Type} (number : Nat) (handles : List (JoinHandle Output)) : Prop :=
  handles.length = number ∧ pending handles = false

theorem allFinished_push {Output : Type} {number : Nat} {handles : List (JoinHandle Output)}
    (all : AllFinished number handles) (handle : JoinHandle Output) :
    AllFinished (number + 1) (finishAt number (handles ++ [handle])) := by
  rcases all with ⟨rfl, none⟩
  refine ⟨?_, pending_finishAt handles handle none⟩
  rw [finishAt, List.length_modify, List.length_append]
  rfl

/-- The state of a loop with one metrics flusher after a number of finished flushes. -/
structure LoopState.Settled (number : Nat) (state : LoopState Nat Nat Nat Nat Nat) : Prop where
  running : state.running = true
  flushers : state.service.metricsFlushers = 1
  traces : AllFinished number state.service.handles.traceFlushHandles
  logs : AllFinished number state.service.handles.logFlushHandles
  metrics : AllFinished number state.service.handles.metricFlushHandles
  proxy : AllFinished number state.service.handles.proxyFlushHandles
  stats : AllFinished number state.service.handles.statsFlushHandles

theorem settled_cycle {utils : TraceUtils Nat} {round : Round Nat Nat Nat Nat Nat}
    (metrics : round.metrics.flush.isSome = true) {number : Nat}
    {state : LoopState Nat Nat Nat Nat Nat} (settled : state.Settled number) :
    ((LoopEvent.cycleAndFinish round number).foldl (LoopState.step utils) state).Settled (number + 1) := by
  rcases Option.isSome_iff_exists.mp metrics with ⟨response, given⟩
  have idle : state.service.hasPendingHandles = false := by
    simp only [FlushingService.hasPendingHandles, FlushHandles.hasPending, settled.traces.2,
      settled.logs.2, settled.metrics.2, settled.proxy.2, settled.stats.2, Bool.or_false]
  simp only [LoopEvent.cycleAndFinish, List.foldl_cons, LoopState.step, settled.running,
    LoopState.cycle, idle, FlushingService.spawnNonBlocking, given, settled.flushers]
  exact ⟨rfl, rfl, allFinished_push settled.traces _,
    allFinished_push settled.logs _, allFinished_push settled.metrics _,
    allFinished_push settled.proxy _, allFinished_push settled.stats _⟩

theorem settled_cycles {utils : TraceUtils Nat} {round : Round Nat Nat Nat Nat Nat}
    (metrics : round.metrics.flush.isSome = true) (number : Nat) :
    ((LoopEvent.cycles round number).foldl (LoopState.step utils)
      (LoopState.initial FlushingService.idle)).Settled number := by
  induction number with
  | zero =>
    exact ⟨rfl, rfl, ⟨rfl, rfl⟩, ⟨rfl, rfl⟩, ⟨rfl, rfl⟩, ⟨rfl, rfl⟩, ⟨rfl, rfl⟩⟩
  | succ _ ih =>
    rw [LoopEvent.cycles, List.foldl_append]
    exact settled_cycle metrics ih

/-- No constant bounds the handles, and the stats that a finished flush returned are not
redriven by the next cycle. -/
theorem handles_pile_up :
    (¬ Exists fun bound => forall events : List (LoopEvent Nat Nat Nat Nat Nat),
      Machine.Always (LoopState.step TraceUtils.separate)
        (fun state => state.service.handles.count <= bound)
        (LoopState.initial FlushingService.idle) events) ∧
    ¬ Machine.Along (LoopState.step TraceUtils.separate)
        (LoopState.RedrivenInTime TraceUtils.separate) (LoopState.initial FlushingService.idle)
        [.cycle Round.withStats, .finish .stats 0,
          .cycle Round.withStats] := by
  constructor
  · rintro ⟨bound, bounded⟩
    have settled : LoopState.Settled (bound + 1)
        ((LoopEvent.cycles Round.down (bound + 1)).foldl (LoopState.step TraceUtils.separate)
          (LoopState.initial FlushingService.idle)) :=
      settled_cycles rfl (bound + 1)
    have few := (bounded (LoopEvent.cycles Round.down (bound + 1))).last
    have many := settled.traces.1
    simp only [FlushHandles.count] at few
    omega
  · rintro ⟨_, _, late, _⟩
    exact absurd (late rfl (.stats [7]) List.mem_cons_self) List.not_mem_nil

end PileUp

end Flushing
end Bottlecap
