import Mathlib.Data.Rat.Defs

namespace Bottlecap
namespace Extension

/-!
# When to flush

`lifecycle/flush_control.rs` and `lifecycle/invocation_times.rs`: the decision the
main loop takes at the top of each iteration, from the configured strategy, the clock
and the times of the last invocations.  Times are `u64` seconds, intervals
milliseconds, and differences wrap as they do in the source.
-/

structure PeriodicStrategy where
  interval : UInt64

/-- `FlushStrategy`, with `atEnd` for `End`. -/
inductive FlushStrategy where
  | default
  | atEnd
  | endPeriodically (strategy : PeriodicStrategy)
  | periodically (strategy : PeriodicStrategy)
  | continuously (strategy : PeriodicStrategy)

inductive ConcreteFlushStrategy where
  | periodically (strategy : PeriodicStrategy)
  | atEnd
  | continuously (strategy : PeriodicStrategy)
  | endPeriodically (strategy : PeriodicStrategy)

inductive FlushDecision where
  | continuous
  | periodic
  | atEnd
  | dont
  deriving DecidableEq

def twentySeconds : UInt64 := 20 * 1000

def lookbackCount : Nat := 20

def oneTwentySeconds : Rat := 120

/-- The times of the last invocations, in a ring. -/
structure InvocationTimes where
  times : List UInt64
  head : Nat
  complete : times.length = lookbackCount
  inside : head < lookbackCount

namespace InvocationTimes

def new : InvocationTimes where
  times := List.replicate lookbackCount 0
  head := 0
  complete := List.length_replicate
  inside := by decide

def add (timestamp : UInt64) (invocations : InvocationTimes) : InvocationTimes where
  times := invocations.times.set invocations.head timestamp
  head := (invocations.head + 1) % lookbackCount
  complete := by rw [List.length_set, invocations.complete]
  inside := Nat.mod_lt _ (by decide)

/-- The oldest time, which the next one will replace. -/
def oldest (invocations : InvocationTimes) : UInt64 :=
  invocations.times.get ⟨invocations.head, invocations.complete ▸ invocations.inside⟩

/-- A slot from the head on is empty, so that not enough invocations have been seen. -/
def hasEmptySlot (invocations : InvocationTimes) : Bool :=
  (invocations.times.drop invocations.head).any (fun time => time == 0)

/-- The strategy for the time since the oldest of the last invocations. -/
def adapt (flushTimeout elapsed : UInt64) : ConcreteFlushStrategy :=
  if (elapsed.toNat : Rat) / (lookbackCount - 1 : Nat) < oneTwentySeconds then
    if elapsed < flushTimeout then .continuously ⟨twentySeconds⟩
    else .periodically ⟨twentySeconds⟩
  else .atEnd

/-- `evaluate_concrete_strategy`: only the default strategy looks at the times. -/
def evaluateConcreteStrategy (now flushTimeout : UInt64) (invocations : InvocationTimes) :
    FlushStrategy -> ConcreteFlushStrategy
  | .periodically strategy => .periodically strategy
  | .atEnd => .atEnd
  | .continuously strategy => .continuously strategy
  | .endPeriodically strategy => .endPeriodically strategy
  | .default =>
    if invocations.hasEmptySlot then .atEnd
    else adapt flushTimeout (now - invocations.oldest)

end InvocationTimes

structure FlushControl where
  lastFlush : UInt64
  flushStrategy : FlushStrategy
  invocationTimes : InvocationTimes
  flushTimeout : UInt64

namespace FlushControl

def new (now : UInt64) (flushStrategy : FlushStrategy) (flushTimeout : UInt64) : FlushControl where
  lastFlush := now
  flushStrategy := flushStrategy
  invocationTimes := InvocationTimes.new
  flushTimeout := flushTimeout

def intervalPassed (now interval : UInt64) (control : FlushControl) : Bool :=
  interval / 1000 < now - control.lastFlush

/-- A decision that is due once in an interval. -/
def whenPassed (decision : FlushDecision) (now interval : UInt64) (control : FlushControl) :
    FlushDecision × FlushControl :=
  if control.intervalPassed now interval then (decision, { control with lastFlush := now })
  else (.dont, control)

/-- The strategy that a call uses, which has added its reading first. -/
def strategyUsed (now : UInt64) (control : FlushControl) : ConcreteFlushStrategy :=
  (control.invocationTimes.add now).evaluateConcreteStrategy now control.flushTimeout
    control.flushStrategy

def evaluateFlushDecision (now : UInt64) (control : FlushControl) :
    FlushDecision × FlushControl :=
  let strategy := control.strategyUsed now
  let control := { control with invocationTimes := control.invocationTimes.add now }
  match strategy with
  | .periodically strategy =>
    control.whenPassed .periodic now strategy.interval
  | .continuously strategy =>
    control.whenPassed .continuous now strategy.interval
  | .atEnd => (.atEnd, control)
  | .endPeriodically strategy =>
    control.whenPassed .atEnd now strategy.interval

/-- The strategy is never replaced. -/
theorem flushStrategy_evaluate (now : UInt64) (control : FlushControl) :
    (control.evaluateFlushDecision now).2.flushStrategy = control.flushStrategy := by
  have passed : forall (decision : FlushDecision) (interval : UInt64) (current : FlushControl),
      (current.whenPassed decision now interval).2.flushStrategy = current.flushStrategy := by
    intro decision interval current
    rw [whenPassed]
    split <;> rfl
  rw [evaluateFlushDecision]
  split
  · exact passed _ _ _
  · exact passed _ _ _
  · rfl
  · exact passed _ _ _

/-- Under the strategy `End` every decision is `End`. -/
theorem evaluate_atEnd {control : FlushControl} (strategy : control.flushStrategy = .atEnd)
    (now : UInt64) : (control.evaluateFlushDecision now).1 = .atEnd := by
  rw [evaluateFlushDecision, strategyUsed]
  simp only [strategy, InvocationTimes.evaluateConcreteStrategy]

end FlushControl
end Extension
end Bottlecap
