import Mathlib.Tactic.NormNum
import Mathlib.Data.List.Induction
import Mathlib.Data.Rat.Cast.Order
import Bottlecap.Foundations.Lists
import Bottlecap.Foundations.Ring
import Bottlecap.Extension.FlushControl

namespace Bottlecap
namespace Extension

open Foundations

/-!
# Flush decisions over a whole run

Every call of `evaluate_flush_decision` reads the clock once.  Under the default
strategy the ring of invocation times is a window over all these readings, and the
time of the last flush keeps two flushes apart.  Both results are about readings that
do not decrease.

The clock is the system's and may be set back.  The differences of times are then
negative, which a `u64` cannot be: a build that checks for overflow panics.  The
checked versions below stop at such a difference, and the last part says for which
readings, under each strategy, they never do.
-/

namespace InvocationTimes

/-- The ring after the given readings. -/
def addAll (readings : List UInt64) (invocations : InvocationTimes) : InvocationTimes :=
  readings.foldl (fun current reading => current.add reading) invocations

theorem holds_addAll (readings : List UInt64) :
    Ring.Holds lookbackCount 0 readings (new.addAll readings).times (new.addAll readings).head := by
  induction readings using List.reverseRecOn with
  | nil => exact Ring.holds_empty lookbackCount 0
  | append_singleton before reading ih =>
    have added : new.addAll (before ++ [reading]) = (new.addAll before).add reading := by
      rw [addAll, List.foldl_append]
      rfl
    rw [added]
    exact ih.write (by decide) reading

theorem getElem?_head (invocations : InvocationTimes) :
    invocations.times[invocations.head]? = some invocations.oldest :=
  List.getElem?_eq_getElem _

/-- An average below two minutes, in seconds for the whole window. -/
theorem shouldAdapt_iff (elapsed : Nat) :
    (elapsed : Rat) / (lookbackCount - 1 : Nat) < oneTwentySeconds <-> elapsed < 2280 := by
  have count : ((lookbackCount - 1 : Nat) : Rat) = 19 := by
    norm_num [lookbackCount]
  have bound : (120 : Rat) * 19 = ((2280 : Nat) : Rat) := by norm_num
  rw [count, oneTwentySeconds, div_lt_iff₀ (by norm_num), bound]
  exact Nat.cast_lt

/-- The default strategy knows three concrete ones. -/
theorem evaluate_default (now flushTimeout : UInt64) (invocations : InvocationTimes) :
    invocations.evaluateConcreteStrategy now flushTimeout .default = .atEnd ∨
      invocations.evaluateConcreteStrategy now flushTimeout .default =
        .continuously ⟨twentySeconds⟩ ∨
      invocations.evaluateConcreteStrategy now flushTimeout .default =
        .periodically ⟨twentySeconds⟩ := by
  unfold evaluateConcreteStrategy adapt
  simp only
  split
  · exact Or.inl rfl
  · split
    · split
      · exact Or.inr (Or.inl rfl)
      · exact Or.inr (Or.inr rfl)
    · exact Or.inl rfl

/-- Too few readings leave a slot empty at the head. -/
theorem evaluate_of_few {readings : List UInt64} (few : readings.length < lookbackCount)
    (now flushTimeout : UInt64) :
    (new.addAll readings).evaluateConcreteStrategy now flushTimeout .default = .atEnd := by
  have holds := holds_addAll readings
  have slot : (new.addAll readings).times[(new.addAll readings).head]? = some 0 := by
    rw [holds.head_eq, Nat.mod_eq_of_lt few]
    exact holds.unwritten readings.length (Nat.le_refl _) few
  have empty : (new.addAll readings).hasEmptySlot = true := by
    rw [hasEmptySlot, List.any_eq_true]
    refine ⟨0, ?_, rfl⟩
    apply List.mem_of_getElem?
    rw [List.getElem?_drop, Nat.add_zero]
    exact slot
  unfold evaluateConcreteStrategy
  simp only [empty, if_true]

end InvocationTimes

/-- The strategy for a window that spans the given seconds. -/
def windowStrategy (flushTimeout : UInt64) (elapsed : Nat) : ConcreteFlushStrategy :=
  if 2280 <= elapsed then .atEnd
  else if elapsed < flushTimeout.toNat then .continuously ⟨twentySeconds⟩
  else .periodically ⟨twentySeconds⟩

namespace InvocationTimes

/-- With enough readings the window begins at the oldest of the last twenty. -/
theorem evaluate_of_full {readings : List UInt64} {now oldest : UInt64}
    (full : lookbackCount <= readings.length)
    (nonzero : forall reading, reading ∈ readings -> reading ≠ 0)
    (first : readings[readings.length - lookbackCount]? = some oldest) (ordered : oldest <= now)
    (flushTimeout : UInt64) :
    (new.addAll readings).evaluateConcreteStrategy now flushTimeout .default =
      windowStrategy flushTimeout (now.toNat - oldest.toNat) := by
  have holds := holds_addAll readings
  have complete : (new.addAll readings).hasEmptySlot = false := by
    rw [hasEmptySlot, List.any_eq_false]
    intro time member zero
    exact nonzero time (holds.written (by decide) full (List.mem_of_mem_drop member))
      (eq_of_beq zero)
  have start : (new.addAll readings).oldest = oldest := by
    have slot := holds.oldest (by decide) full
    rw [getElem?_head, first] at slot
    exact Option.some.inj slot
  unfold evaluateConcreteStrategy adapt windowStrategy
  simp only [complete, Bool.false_eq_true, if_false, start, UInt64.lt_iff_toNat_lt,
    UInt64.toNat_sub_of_le now oldest ordered, shouldAdapt_iff]
  by_cases long : 2280 <= now.toNat - oldest.toNat
  · rw [if_neg (Nat.not_lt.mpr long), if_pos long]
  · rw [if_pos (Nat.not_le.mp long), if_neg long]

end InvocationTimes

namespace ConcreteFlushStrategy

/-- The decisions a strategy leads to. -/
def Allows (decision : FlushDecision) : ConcreteFlushStrategy -> Prop
  | periodically _ => decision = .periodic ∨ decision = .dont
  | continuously _ => decision = .continuous ∨ decision = .dont
  | atEnd => decision = .atEnd
  | endPeriodically _ => decision = .atEnd ∨ decision = .dont

/-- The seconds that pass between two flushes, for a strategy that keeps them apart. -/
def seconds : ConcreteFlushStrategy -> Option UInt64
  | periodically strategy => some (strategy.interval / 1000)
  | continuously strategy => some (strategy.interval / 1000)
  | atEnd => none
  | endPeriodically strategy => some (strategy.interval / 1000)

/-- The time of the last flush after a call at `now`. -/
def flushTime (now last : UInt64) (strategy : ConcreteFlushStrategy) : UInt64 :=
  match strategy.seconds with
  | some seconds => if seconds < now - last then now else last
  | none => last

theorem flushTime_eq_or (now last : UInt64) (strategy : ConcreteFlushStrategy) :
    strategy.flushTime now last = last ∨ strategy.flushTime now last = now := by
  unfold flushTime
  split
  · split
    · exact Or.inr rfl
    · exact Or.inl rfl
  · exact Or.inl rfl

end ConcreteFlushStrategy

namespace FlushControl

/-- The control after calls at the given readings. -/
def afterCalls (readings : List UInt64) (control : FlushControl) : FlushControl :=
  readings.foldl (fun current now => (current.evaluateFlushDecision now).2) control

/-- A decision that starts a flush besides those at the end of invocations. -/
def Flushes (decision : FlushDecision) : Prop :=
  decision = .periodic ∨ decision = .continuous

theorem not_flushes_dont : ¬ Flushes .dont := by
  rintro (wrong | wrong)
  · cases wrong
  · cases wrong

theorem not_flushes_atEnd : ¬ Flushes .atEnd := by
  rintro (wrong | wrong)
  · cases wrong
  · cases wrong

theorem afterCalls_concat (readings : List UInt64) (now : UInt64) (control : FlushControl) :
    control.afterCalls (readings ++ [now]) =
      ((control.afterCalls readings).evaluateFlushDecision now).2 := by
  rw [afterCalls, List.foldl_append]
  rfl

theorem whenPassed_snd (decision : FlushDecision) (now interval : UInt64) (control : FlushControl) :
    (control.whenPassed decision now interval).2 = { control with
      lastFlush := if interval / 1000 < now - control.lastFlush then now
        else control.lastFlush } := by
  rw [whenPassed, intervalPassed]
  by_cases due : interval / 1000 < now - control.lastFlush
  · rw [if_pos (decide_eq_true due), if_pos due]
  · rw [if_neg (mt of_decide_eq_true due), if_neg due]

/-- A call adds its reading to the ring and changes nothing else, but perhaps the time
of the last flush to its reading. -/
theorem evaluate_snd (now : UInt64) (control : FlushControl) :
    (control.evaluateFlushDecision now).2 = { control with
      invocationTimes := control.invocationTimes.add now
      lastFlush := (control.strategyUsed now).flushTime now control.lastFlush } := by
  rw [evaluateFlushDecision]
  cases control.strategyUsed now with
  | atEnd => rfl
  | _ => exact whenPassed_snd _ _ _ _

theorem allows_evaluate (now : UInt64) (control : FlushControl) :
    (control.strategyUsed now).Allows (control.evaluateFlushDecision now).1 := by
  have passed : forall (decision : FlushDecision) (interval : UInt64) (current : FlushControl),
      (current.whenPassed decision now interval).1 = decision ∨
        (current.whenPassed decision now interval).1 = .dont := by
    intro decision interval current
    rw [whenPassed]
    split
    · exact Or.inl rfl
    · exact Or.inr rfl
  rw [evaluateFlushDecision]
  cases control.strategyUsed now with
  | atEnd => rfl
  | _ => exact passed _ _ _

/-- Under the default strategy a flush is decided more than twenty seconds after the
last one, and is the last one then. -/
theorem flushes_default {control : FlushControl} {now : UInt64}
    (strategy : control.flushStrategy = .default)
    (flushes : Flushes (control.evaluateFlushDecision now).1) :
    20 < now - control.lastFlush ∧ (control.evaluateFlushDecision now).2.lastFlush = now := by
  have passed : forall (decision : FlushDecision) (current : FlushControl),
      Flushes (current.whenPassed decision now twentySeconds).1 ->
      20 < now - current.lastFlush ∧
        (current.whenPassed decision now twentySeconds).2.lastFlush = now := by
    intro decision current flushes
    have seconds : twentySeconds / 1000 = 20 := by decide
    rw [whenPassed] at flushes ⊢
    split at flushes
    · rename_i due
      rw [if_pos due]
      rw [intervalPassed, decide_eq_true_eq] at due
      exact ⟨due, rfl⟩
    · exact absurd flushes not_flushes_dont
  rcases (control.invocationTimes.add now).evaluate_default now control.flushTimeout with
    used | used | used
  · rw [evaluateFlushDecision, strategyUsed, strategy, used] at flushes
    exact absurd flushes not_flushes_atEnd
  · rw [evaluateFlushDecision, strategyUsed, strategy, used] at flushes ⊢
    exact passed _ _ flushes
  · rw [evaluateFlushDecision, strategyUsed, strategy, used] at flushes ⊢
    exact passed _ _ flushes

/-! ## Readings that do not decrease -/

theorem fields_afterCalls (readings : List UInt64) (control : FlushControl) :
    (control.afterCalls readings).invocationTimes = control.invocationTimes.addAll readings ∧
      (control.afterCalls readings).flushStrategy = control.flushStrategy ∧
      (control.afterCalls readings).flushTimeout = control.flushTimeout := by
  induction readings using List.reverseRecOn with
  | nil => exact ⟨rfl, rfl, rfl⟩
  | append_singleton before now ih =>
    rcases ih with ⟨times, strategy, timeout⟩
    rw [afterCalls_concat, evaluate_snd, times, strategy, timeout, InvocationTimes.addAll,
      InvocationTimes.addAll, List.foldl_append]
    exact ⟨rfl, rfl, rfl⟩

theorem strategyUsed_new (start flushTimeout now : UInt64) (before : List UInt64) :
    ((new start .default flushTimeout).afterCalls before).strategyUsed now =
      (InvocationTimes.new.addAll (before ++ [now])).evaluateConcreteStrategy now flushTimeout
        .default := by
  rcases fields_afterCalls before (new start .default flushTimeout) with
    ⟨times, strategy, timeout⟩
  rw [strategyUsed, times, strategy, timeout, InvocationTimes.addAll, InvocationTimes.addAll,
    List.foldl_append]
  rfl

/-- A flush at some reading stays the last one until a later reading replaces it. -/
theorem lastFlush_between {first last : UInt64} {control : FlushControl} {between : List UInt64}
    (since : first <= control.lastFlush ∧ control.lastFlush <= last)
    (ordered : forall reading, reading ∈ between -> first <= reading ∧ reading <= last) :
    first <= (control.afterCalls between).lastFlush ∧ (control.afterCalls between).lastFlush <= last := by
  refine foldl_invariant (fun current : FlushControl =>
    first <= current.lastFlush ∧ current.lastFlush <= last) _ between ?_ control since
  intro current reading member kept
  rw [evaluate_snd]
  rcases (current.strategyUsed reading).flushTime_eq_or reading current.lastFlush with same | same
  · exact same.symm ▸ kept
  · exact same.symm ▸ ordered reading member

theorem flushes_apart {start flushTimeout first second : UInt64} {before between after : List UInt64}
    (nondecreasing : (before ++ first :: (between ++ second :: after)).Pairwise (· <= ·))
    (one : Flushes (((new start .default flushTimeout).afterCalls before
      ).evaluateFlushDecision first).1)
    (two : Flushes (((new start .default flushTimeout).afterCalls
      (before ++ first :: between)).evaluateFlushDecision second).1) :
    first.toNat + 20 < second.toNat := by
  have strategy := fun readings =>
    (fields_afterCalls readings (new start .default flushTimeout)).2.1
  rcases List.pairwise_cons.mp (List.pairwise_append.mp nondecreasing).2.1 with ⟨above, later⟩
  have below := (List.pairwise_append.mp later).2.2
  have ordered : first <= second :=
    above second (List.mem_append_right between List.mem_cons_self)
  have flushed := (flushes_default (strategy before) one).2
  have due := (flushes_default (strategy (before ++ first :: between)) two).1
  have split : (new start .default flushTimeout).afterCalls (before ++ first :: between) =
      (((new start .default flushTimeout).afterCalls before).evaluateFlushDecision
        first).2.afterCalls between := by
    rw [afterCalls, List.foldl_append]
    rfl
  rw [split] at due
  have within : forall reading, reading ∈ between -> first <= reading ∧ reading <= second := by
    intro reading member
    exact ⟨above reading (List.mem_append_left _ member),
      below reading member second List.mem_cons_self⟩
  have kept := lastFlush_between ⟨UInt64.le_of_eq flushed.symm, flushed.symm ▸ ordered⟩ within
  rw [UInt64.lt_iff_toNat_lt, UInt64.toNat_sub_of_le _ _ kept.2] at due
  have bound := UInt64.le_iff_toNat_le.mp kept.1
  have twenty : (20 : UInt64).toNat = 20 := rfl
  omega

/-- The window of the last twenty readings decides the strategy of a call, the decision
is one of this strategy, and the calls that flush are more than twenty seconds apart. -/
theorem default_strategy_window (start flushTimeout : UInt64) (readings : List UInt64)
    (nonzero : forall reading, reading ∈ readings -> reading ≠ 0)
    (nondecreasing : readings.Pairwise (· <= ·)) :
    (forall before now after, readings = before ++ now :: after ->
      let control := (new start .default flushTimeout).afterCalls before
      (before.length + 1 < 20 -> control.strategyUsed now = .atEnd) ∧
      (forall oldest, 20 <= before.length + 1 -> readings[before.length + 1 - 20]? = some oldest ->
        control.strategyUsed now = windowStrategy flushTimeout (now.toNat - oldest.toNat)) ∧
      (control.strategyUsed now).Allows (control.evaluateFlushDecision now).1) ∧
    (forall before first between second after,
      readings = before ++ first :: (between ++ second :: after) ->
      Flushes (((new start .default flushTimeout).afterCalls before
        ).evaluateFlushDecision first).1 ->
      Flushes (((new start .default flushTimeout).afterCalls
        (before ++ first :: between)).evaluateFlushDecision second).1 ->
      first.toNat + 20 < second.toNat) := by
  refine ⟨?_, ?_⟩
  · intro before now after split
    have known : (before ++ [now]).length = before.length + 1 := by
      rw [List.length_append, List.length_singleton]
    have longer : readings = (before ++ [now]) ++ after := by
      rw [split, List.append_assoc, List.singleton_append]
    refine ⟨?_, ?_, allows_evaluate _ _⟩
    · intro few
      rw [strategyUsed_new]
      exact InvocationTimes.evaluate_of_few (known ▸ few) now flushTimeout
    · intro oldest full found
      rw [longer, List.getElem?_append_left (by omega), <- known] at found
      have ordered : oldest <= now := by
        rw [longer] at nondecreasing
        have window := (List.pairwise_append.mp nondecreasing).1
        have member := List.mem_of_getElem? found
        rcases List.mem_append.mp member with earlier | same
        · exact (List.pairwise_append.mp window).2.2 oldest earlier now List.mem_cons_self
        · rw [List.mem_singleton.mp same]
          exact UInt64.le_refl now
      rw [strategyUsed_new]
      refine InvocationTimes.evaluate_of_full (known ▸ full) ?_ found ordered flushTimeout
      intro reading member
      exact nonzero reading (longer ▸ List.mem_append_left after member)
  · intro before first between second after split one two
    rw [split] at nondecreasing
    exact flushes_apart nondecreasing one two

/-- Twenty readings a second apart: the last call is the first that is not at the end. -/
theorem default_strategy_window_twenty :
    ((new 1 .default 60).afterCalls ((List.range' 1 19).map UInt64.ofNat)
        ).strategyUsed 20 = .continuously ⟨twentySeconds⟩ := by
  have positive : ((List.range' 1 20).map UInt64.ofNat).all (fun reading => reading != 0) = true := by
    decide
  have nonzero : forall reading, reading ∈ (List.range' 1 20).map UInt64.ofNat -> reading ≠ 0 :=
    fun reading member => bne_iff_ne.mp (List.all_eq_true.mp positive reading member)
  refine ((default_strategy_window 1 60 ((List.range' 1 20).map UInt64.ofNat) nonzero
    (by decide)).1 ((List.range' 1 19).map UInt64.ofNat) 20 [] (by decide)).2.1 1 (by decide)
    (by decide) |>.trans ?_
  rfl

end FlushControl

/-! ## Readings that may decrease -/

/-- A difference in a build that checks for overflow. -/
def checkedSub (minuend subtrahend : UInt64) : Option UInt64 :=
  if subtrahend <= minuend then some (minuend - subtrahend) else none

theorem checkedSub_eq_some_iff {minuend subtrahend difference : UInt64} :
    checkedSub minuend subtrahend = some difference <->
      subtrahend <= minuend ∧ minuend - subtrahend = difference := by
  rw [checkedSub, Option.ite_none_right_eq_some, Option.some.injEq]

namespace InvocationTimes

/-- `evaluate_concrete_strategy` with its difference checked. -/
def evaluateConcreteStrategyChecked (now flushTimeout : UInt64) (invocations : InvocationTimes) :
    FlushStrategy -> Option ConcreteFlushStrategy
  | .periodically strategy => some (.periodically strategy)
  | .atEnd => some .atEnd
  | .continuously strategy => some (.continuously strategy)
  | .endPeriodically strategy => some (.endPeriodically strategy)
  | .default =>
    if invocations.hasEmptySlot then some .atEnd
    else (checkedSub now invocations.oldest).map (adapt flushTimeout)

/-- The default strategy looks at the oldest time once enough have been seen. -/
def Compares (strategy : FlushStrategy) (invocations : InvocationTimes) : Prop :=
  strategy = .default ∧ invocations.hasEmptySlot = false

theorem evaluateChecked_eq_some_iff {now flushTimeout : UInt64} {invocations : InvocationTimes}
    {strategy : FlushStrategy} {used : ConcreteFlushStrategy} :
    invocations.evaluateConcreteStrategyChecked now flushTimeout strategy = some used <->
      (invocations.Compares strategy -> invocations.oldest <= now) ∧
        invocations.evaluateConcreteStrategy now flushTimeout strategy = used := by
  cases strategy with
  | default =>
    rw [evaluateConcreteStrategyChecked, evaluateConcreteStrategy, Compares]
    cases invocations.hasEmptySlot with
    | true => simp
    | false => simp [checkedSub_eq_some_iff, and_assoc]
  | _ => simp [evaluateConcreteStrategyChecked, evaluateConcreteStrategy, Compares]

end InvocationTimes

namespace FlushControl

/-- `interval_passed` with its difference checked. -/
def intervalPassedChecked (now interval : UInt64) (control : FlushControl) : Option Bool :=
  (checkedSub now control.lastFlush).map fun elapsed => decide (interval / 1000 < elapsed)

def whenPassedChecked (decision : FlushDecision) (now interval : UInt64) (control : FlushControl) :
    Option (FlushDecision × FlushControl) :=
  (control.intervalPassedChecked now interval).map fun passed =>
    if passed then (decision, { control with lastFlush := now }) else (.dont, control)

/-- `evaluate_flush_decision`, which returns nothing when a difference underflows. -/
def evaluateFlushDecisionChecked (now : UInt64) (control : FlushControl) :
    Option (FlushDecision × FlushControl) :=
  let control := { control with invocationTimes := control.invocationTimes.add now }
  (control.invocationTimes.evaluateConcreteStrategyChecked now control.flushTimeout
    control.flushStrategy).bind fun
  | .periodically strategy =>
    control.whenPassedChecked .periodic now strategy.interval
  | .continuously strategy =>
    control.whenPassedChecked .continuous now strategy.interval
  | .atEnd => some (.atEnd, control)
  | .endPeriodically strategy =>
    control.whenPassedChecked .atEnd now strategy.interval

/-- The control after checked calls at the given readings. -/
def afterChecked (readings : List UInt64) (control : FlushControl) : Option FlushControl :=
  readings.foldlM (fun current now => (current.evaluateFlushDecisionChecked now).map Prod.snd) control

theorem whenPassedChecked_eq_some_iff {decision : FlushDecision} {now interval : UInt64}
    {control : FlushControl} {result : FlushDecision × FlushControl} :
    control.whenPassedChecked decision now interval = some result <->
      control.lastFlush <= now ∧ control.whenPassed decision now interval = result := by
  rw [whenPassedChecked, intervalPassedChecked, Option.map_map, Option.map_eq_some_iff]
  simp only [checkedSub_eq_some_iff, and_assoc, exists_and_left, exists_eq_left']
  rfl

/-- A call is not stopped exactly if its reading is not before the oldest time, nor before
the last flush, when it looks at them, and the checks change nothing then. -/
theorem evaluateDecisionChecked_eq_some_iff {now : UInt64} {control : FlushControl}
    {result : FlushDecision × FlushControl} :
    control.evaluateFlushDecisionChecked now = some result <->
      ((control.invocationTimes.add now).Compares control.flushStrategy ->
        (control.invocationTimes.add now).oldest <= now) ∧
      (control.strategyUsed now ≠ .atEnd -> control.lastFlush <= now) ∧
        control.evaluateFlushDecision now = result := by
  rw [evaluateFlushDecisionChecked, Option.bind_eq_some_iff]
  simp only [InvocationTimes.evaluateChecked_eq_some_iff, and_assoc, exists_and_left,
    exists_eq_left']
  refine and_congr_right fun _ => ?_
  rw [evaluateFlushDecision, <- strategyUsed]
  cases control.strategyUsed now with
  | atEnd => simp
  | _ => simp [whenPassedChecked_eq_some_iff]

/-- No reading is before a time it is compared with: the oldest one of its window, and the
last flush, which was at `last` after the readings `seen`. -/
def NoneBefore (strategy : FlushStrategy) (flushTimeout : UInt64) :
    List UInt64 -> UInt64 -> List UInt64 -> Prop
  | _, _, [] => True
  | seen, last, now :: rest =>
    let window := InvocationTimes.new.addAll (seen ++ [now])
    let used := window.evaluateConcreteStrategy now flushTimeout strategy
    (window.Compares strategy -> window.oldest <= now) ∧
      (used ≠ .atEnd -> last <= now) ∧
      NoneBefore strategy flushTimeout (seen ++ [now]) (used.flushTime now last) rest

theorem afterChecked_isSome_iff (readings seen : List UInt64) (control : FlushControl)
    (known : control.invocationTimes = InvocationTimes.new.addAll seen) :
    (control.afterChecked readings).isSome <->
      NoneBefore control.flushStrategy control.flushTimeout seen control.lastFlush readings := by
  induction readings generalizing seen control with
  | nil => exact iff_of_true rfl trivial
  | cons now rest ih =>
    have added : control.invocationTimes.add now = InvocationTimes.new.addAll (seen ++ [now]) := by
      rw [known, InvocationTimes.addAll, InvocationTimes.addAll, List.foldl_append]
      rfl
    have next := ih (seen ++ [now]) (control.evaluateFlushDecision now).2
      (by rw [evaluate_snd]; exact added)
    rw [evaluate_snd] at next
    have called := @evaluateDecisionChecked_eq_some_iff now control
    rw [strategyUsed, added] at called next
    rw [afterChecked, List.foldlM_cons, NoneBefore, <- next]
    cases completes : control.evaluateFlushDecisionChecked now with
    | none =>
      refine iff_of_false (fun wrong => by cases wrong) ?_
      rintro ⟨window, last, _⟩
      rw [called.mpr ⟨window, last, rfl⟩] at completes
      cases completes
    | some result =>
      rcases called.mp completes with ⟨window, last, same⟩
      change (result.2.afterChecked rest).isSome <-> _
      rw [<- same, evaluate_snd, strategyUsed, added]
      exact ⟨fun later => ⟨window, last, later⟩, fun all => all.2.2⟩

/-- No difference underflows exactly when no reading is before a time that it is compared
with. -/
theorem no_underflow_iff (start flushTimeout : UInt64) (strategy : FlushStrategy)
    (readings : List UInt64) :
    ((new start strategy flushTimeout).afterChecked readings).isSome <->
      NoneBefore strategy flushTimeout [] start readings :=
  afterChecked_isSome_iff readings [] _ rfl

/-- The clock is set back by five seconds between the construction and the first call. -/
theorem underflow_after_clock_set_back :
    (new 10 (.periodically ⟨20000⟩) 60).afterChecked [5] = none := by
  rfl

end FlushControl
end Extension
end Bottlecap
