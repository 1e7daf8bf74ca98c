import Bottlecap.Lifecycle.Tracker

namespace Bottlecap
namespace Lifecycle

open Foundations Extension

/-!
# Counters and reparenting entries

Two counters of the enhanced metrics, the count of concurrent invocations and the
entries of `sorted_reparenting_info` have nothing to do with the contexts of the buffer:
a gauge reads them off the processor.  `Gauge.after` is what a command does to it.  The one thing it takes
from the contexts is how many errors the command counts, which depends on the mark
that an end event leaves on the span of its invocation.
-/

inductive Count where
  | invocation
  | error
  | pause
  deriving DecidableEq

/-- What a call of the enhanced metrics counts for. -/
def Effect.counts : Effect -> Option Count
  | incrementInvocationMetric _ => some .invocation
  | incrementErrorsMetric _ => some .error
  | pauseUsageMetricsMonitoring => some .pause
  | _ => none

/-- The counter of concurrent invocations, and how often the usage monitoring was paused
because it was zero. -/
structure Usage where
  activeInvocations : Nat
  pauses : Nat

namespace Usage

def invoke (env : Env) (usage : Usage) : Usage :=
  if env.lambdaProcEnhancedMetrics ∧ env.isManagedInstanceMode then
    { usage with activeInvocations := usage.activeInvocations + 1 }
  else usage

def report (metrics : ReportMetrics) (usage : Usage) : Usage :=
  match metrics with
  | .managedInstance _ => ⟨usage.activeInvocations - 1,
      usage.pauses + if usage.activeInvocations - 1 = 0 then 1 else 0⟩
  | .onDemand _ => usage

def after (env : Env) (usage : Usage) : Command -> Usage
  | .invokeEvent _ => usage.invoke env
  | .platformStart _ _ => if env.isManagedInstanceMode then usage.invoke env else usage
  | .platformReport _ metrics _ _ _ _ => usage.report metrics
  | _ => usage

end Usage

structure Gauge where
  capacity : Nat
  infos : List ReparentingInfo
  status : FirstInvocationMetricStatus
  invocations : Nat
  errors : Nat
  usage : Usage

/-- Only the trace agent sends this command. -/
def Command.updatesReparenting : Command -> Bool
  | updateReparenting _ => true
  | _ => false

namespace Gauge

def addErrors (count : Nat) (gauge : Gauge) : Gauge :=
  { gauge with errors := gauge.errors + count }

/-- A call of the enhanced metrics. -/
def count (gauge : Gauge) : Count -> Gauge
  | .invocation => { gauge with invocations := gauge.invocations + 1 }
  | .error => gauge.addErrors 1
  | .pause => { gauge with usage := { gauge.usage with pauses := gauge.usage.pauses + 1 } }

/-- The invocation metric of a new invocation. -/
def countInvocation (isManagedInstanceMode : Bool) (now : Int) (gauge : Gauge) : Gauge :=
  if isManagedInstanceMode then { gauge with invocations := gauge.invocations + 1 }
  else
    match gauge.status with
    | .pending =>
      { gauge with status := .heldBack now }
    | .initStartSeen =>
      { gauge with
        status := .resolved
        invocations := gauge.invocations + 1 }
    | _ => { gauge with invocations := gauge.invocations + 1 }

def seeInitStart (gauge : Gauge) : Gauge :=
  if gauge.status = .pending then
    { gauge with status := .initStartSeen }
  else gauge

def flushPending (gauge : Gauge) : Gauge :=
  match gauge.status with
  | .heldBack _ =>
    { gauge with
      status := .resolved
      invocations := gauge.invocations + 1 }
  | _ => gauge

def listed (requestId : String) (infos : List ReparentingInfo) : Bool :=
  infos.any (fun info => info.requestId == requestId)

/-- A new entry of `sorted_reparenting_info`, which waits for a trace id. -/
def waitingInfo (requestId : String) (spanId parentId : UInt64) : ReparentingInfo where
  requestId := requestId
  invocationSpanId := spanId
  parentIdToReparent := parentId
  guessedTraceId := 0
  needsTraceId := true

def addInfo (info : ReparentingInfo) (gauge : Gauge) : Gauge :=
  if listed info.requestId gauge.infos then gauge
  else
    let kept := if gauge.infos.length = gauge.capacity then gauge.infos.tail else gauge.infos
    { gauge with infos := kept ++ [info] }

/-- What the entry of the buffer takes from the one that the caller brings. -/
def refreshed (info existing : ReparentingInfo) : ReparentingInfo :=
  { existing with
    needsTraceId := info.needsTraceId
    guessedTraceId := info.guessedTraceId }

def refresh (gauge : Gauge) (info : ReparentingInfo) : Gauge :=
  { gauge with
    infos := modifyFirst (fun existing => existing.requestId == info.requestId) (refreshed info)
      gauge.infos }

variable {gauge : Gauge}

theorem foldl_refresh (infos : List ReparentingInfo) (gauge : Gauge) :
    infos.foldl refresh gauge = { gauge with
      infos := infos.foldl (fun current info => modifyFirst
        (fun existing => existing.requestId == info.requestId) (refreshed info) current)
        gauge.infos } := by
  induction infos generalizing gauge with
  | nil => rfl
  | cons _ _ ih =>
    rw [List.foldl_cons, ih]
    rfl

def release (requestId : String) (gauge : Gauge) : Gauge :=
  { gauge with infos := gauge.infos.filter (fun info => info.requestId != requestId) }

/-- What a command does that counts the given number of errors. -/
def after (env : Env) (ambient : Ambient) (errors : Nat) (gauge : Gauge) (command : Command) :
    Gauge :=
  let gauge := { gauge with usage := gauge.usage.after env command }
  match command with
  | .invokeEvent _ => gauge.countInvocation env.isManagedInstanceMode ambient.unixSeconds
  | .platformInitStart _ _ => gauge.seeInitStart.flushPending
  | .platformStart _ _ =>
    if env.isManagedInstanceMode then gauge.countInvocation true ambient.unixSeconds else gauge
  | .platformRuntimeDone _ _ _ _ _ => gauge.addErrors errors
  | .platformReport requestId _ _ _ _ _ => (gauge.addErrors errors).release requestId
  | .universalInstrumentationEnd _ _ => gauge.addErrors errors
  | .addReparenting requestId spanId parentId =>
    gauge.addInfo (waitingInfo requestId spanId parentId)
  | .updateReparenting infos => infos.foldl refresh gauge
  | .onShutdownEvent => gauge.flushPending
  | _ => gauge

/-! ## The entries -/

theorem infos_countInvocation (isManagedInstanceMode : Bool) (now : Int) (gauge : Gauge) :
    (gauge.countInvocation isManagedInstanceMode now).infos = gauge.infos := by
  unfold countInvocation
  split
  · rfl
  · split <;> rfl

theorem infos_seeInitStart (gauge : Gauge) : gauge.seeInitStart.infos = gauge.infos := by
  unfold seeInitStart
  split <;> rfl

theorem infos_flushPending (gauge : Gauge) : gauge.flushPending.infos = gauge.infos := by
  unfold flushPending
  split <;> rfl

/-- Commands other than `UpdateReparenting` leave the entries alone, add one that
waits, or remove those of a request. -/
theorem infos_after (env : Env) (ambient : Ambient) (errors : Nat) (gauge : Gauge)
    {command : Command} (other : command.updatesReparenting = false) :
    (gauge.after env ambient errors command).infos = gauge.infos ∨
      (Exists fun requestId => Exists fun spanId =>
        Exists fun parentId => (gauge.after env ambient errors command).infos =
          (gauge.addInfo (waitingInfo requestId spanId parentId)).infos) ∨
      Exists fun requestId => (gauge.after env ambient errors command).infos =
        gauge.infos.filter (fun info => info.requestId != requestId) := by
  cases command with
  | invokeEvent => exact Or.inl (infos_countInvocation _ _ _)
  | platformInitStart =>
    exact Or.inl ((infos_flushPending gauge.seeInitStart).trans (infos_seeInitStart gauge))
  | platformStart =>
    refine Or.inl ?_
    unfold after
    simp only
    split
    · exact infos_countInvocation _ _ _
    · rfl
  | platformReport requestId =>
    exact Or.inr (Or.inr ⟨requestId, rfl⟩)
  | addReparenting requestId spanId parentId =>
    exact Or.inr (Or.inl ⟨requestId, spanId, parentId, rfl⟩)
  | updateReparenting => cases other
  | onShutdownEvent => exact Or.inl (infos_flushPending gauge)
  | _ => exact Or.inl rfl

theorem mem_addInfo {info later : ReparentingInfo} (member : later ∈ (gauge.addInfo info).infos) :
    later ∈ gauge.infos ∨ later = info ∧ listed info.requestId gauge.infos = false := by
  unfold addInfo at member
  split at member
  · exact Or.inl member
  · rename_i unlisted
    rcases List.mem_append.mp member with old | new
    · refine Or.inl ?_
      split at old
      · exact List.mem_of_mem_tail old
      · exact old
    · exact Or.inr ⟨List.mem_singleton.mp new, Bool.not_eq_true _ ▸ unlisted⟩

theorem mem_of_listed {requestId : String} {infos : List ReparentingInfo} :
    listed requestId infos = true <-> requestId ∈ infos.map ReparentingInfo.requestId := by
  unfold listed
  rw [List.any_eq_true, List.mem_map]
  simp only [beq_iff_eq]

/-- The entries are those of different requests. -/
def Distinct (infos : List ReparentingInfo) : Prop :=
  (infos.map ReparentingInfo.requestId).Nodup

theorem Distinct.addInfo (distinct : Distinct gauge.infos) (info : ReparentingInfo) :
    Distinct (gauge.addInfo info).infos := by
  unfold Gauge.addInfo
  split
  · exact distinct
  · rename_i unlisted
    have fresh : info.requestId ∉ gauge.infos.map ReparentingInfo.requestId := by
      intro member
      exact unlisted (mem_of_listed.mpr member)
    have appended : forall kept : List ReparentingInfo, kept.Sublist gauge.infos ->
        Distinct (kept ++ [info]) := by
      intro kept sublist
      unfold Distinct
      rw [List.map_append, List.nodup_append]
      refine ⟨distinct.sublist (sublist.map _), List.nodup_singleton _, ?_⟩
      intro old member new single same
      rw [List.mem_singleton.mp single] at same
      exact fresh (same ▸ (sublist.map _).subset member)
    apply appended
    split
    · exact List.tail_sublist _
    · exact List.Sublist.refl _

theorem Distinct.refresh (distinct : Distinct gauge.infos) (info : ReparentingInfo) :
    Distinct (gauge.refresh info).infos := by
  unfold Distinct Gauge.refresh
  rw [map_modifyFirst]
  · exact distinct
  · intro existing _
    rfl

theorem Distinct.after (distinct : Distinct gauge.infos) (env : Env) (ambient : Ambient)
    (errors : Nat) (command : Command) :
    Distinct (gauge.after env ambient errors command).infos := by
  cases update : command.updatesReparenting with
  | true =>
    cases command with
    | updateReparenting infos =>
      exact foldl_invariant (fun current : Gauge => Distinct current.infos) Gauge.refresh infos
        (fun current info _ kept => kept.refresh info) gauge distinct
    | _ => cases update
  | false =>
    rcases infos_after env ambient errors gauge update with
      same | ⟨requestId, spanId, parentId, same⟩ | ⟨requestId, same⟩
    · rw [same]
      exact distinct
    · rw [same]
      exact distinct.addInfo _
    · rw [same]
      exact distinct.sublist (List.filter_sublist.map _)

end Gauge

/-! ## Errors -/

namespace UniversalInstrumentationData

/-- The response has a status code `5xx`. -/
def serverError (event : UniversalInstrumentationData) : Bool :=
  ((event.payloadValue.get "statusCode").bind Value.asI64).any
    (fun statusCode => Context.isServerError (toString statusCode))

/-- The event says itself that the invocation failed: in its status code or in its
headers. -/
def reportsError (env : Env) (event : UniversalInstrumentationData) : Bool :=
  event.serverError || (Context.getErrorTagsFromHeaders env event.headers false).isSome

end UniversalInstrumentationData

namespace Context

variable (env : Env)

def marked (context : Context) : Bool := context.invocationSpan.error == 1

variable (context : Context)

/-- A captured payload changes tags of the invocation span. -/
theorem captureResponse_eq (payload : Value) :
    Exists fun tags => context.captureResponse env payload = { context with
      invocationSpan := { context.invocationSpan with metaTags := tags } } := by
  unfold captureResponse
  split
  · exact ⟨_, rfl⟩
  · exact ⟨context.invocationSpan.metaTags, rfl⟩

/-- A sampling priority changes metrics of the invocation span. -/
theorem onSamplingPriority_eq (headers : Tags) :
    Exists fun metrics => context.onSamplingPriority env headers = { context with
      invocationSpan := { context.invocationSpan with metrics := metrics } } := by
  unfold onSamplingPriority
  simp only
  split
  · split
    · exact ⟨_, rfl⟩
    · exact ⟨context.invocationSpan.metrics, rfl⟩
  · exact ⟨context.invocationSpan.metrics, rfl⟩

theorem marked_onStatusCode (event : UniversalInstrumentationData) :
    (context.onStatusCode event.payloadValue).marked = (context.marked || event.serverError) := by
  unfold onStatusCode UniversalInstrumentationData.serverError
  cases (event.payloadValue.get "statusCode").bind Value.asI64 with
  | none => simp only [Option.any_none, Bool.or_false]
  | some statusCode =>
    simp only [Option.any_some, marked]
    cases isServerError (toString statusCode) with
    | false => simp only [Bool.false_eq_true, if_false, Bool.or_false]
    | true => simp only [if_true, beq_self_eq_true, Bool.or_true]

/-- A span that is marked already counts as one more reason for error tags. -/
theorem getErrorTagsFromHeaders_isSome (headers : Tags) (hasError : Bool) :
    (getErrorTagsFromHeaders env headers hasError).isSome =
      ((getErrorTagsFromHeaders env headers false).isSome || hasError) := by
  unfold getErrorTagsFromHeaders
  cases hasError with
  | false => simp only [Bool.or_false]
  | true => simp only [Bool.or_true, if_true, Option.isSome_some]

theorem marked_onEndHeaders (headers : Tags) :
    (context.onEndHeaders env headers).marked =
      (context.marked || (getErrorTagsFromHeaders env headers false).isSome) := by
  rcases onSamplingPriority_eq env context headers with ⟨metrics, sampled⟩
  have reason := getErrorTagsFromHeaders_isSome env headers context.marked
  rw [Bool.or_comm, <- reason]
  unfold onEndHeaders marked
  simp only [sampled]
  have inferred := Bool.eq_false_or_eq_true context.inferred.inferredSpan.isSome
  cases tags : getErrorTagsFromHeaders env headers (context.invocationSpan.error == 1) with
  | some =>
    rcases inferred with present | absent
    · simp only [present, if_true, tags, beq_self_eq_true, Option.isSome_some]
    · simp only [absent, Bool.false_eq_true, if_false, tags, beq_self_eq_true, Option.isSome_some]
  | none =>
    rw [marked, tags] at reason
    have unmarked := (Bool.or_eq_false_iff.mp reason.symm).2
    rcases inferred with present | absent
    · simp only [present, if_true, tags]
      exact unmarked
    · simp only [absent, Bool.false_eq_true, if_false, tags]
      exact unmarked

/-- An end event leaves the span of the invocation marked exactly if it was marked
before, or if the event reports an error. -/
theorem marked_onUniversalInstrumentationEnd (event : UniversalInstrumentationData) :
    (context.onUniversalInstrumentationEnd env event).marked =
      (context.marked || event.reportsError env) := by
  rcases captureResponse_eq env context event.payloadValue with ⟨tags, captured⟩
  unfold onUniversalInstrumentationEnd UniversalInstrumentationData.reportsError
  rw [marked_onEndHeaders, marked_onStatusCode, captured, Bool.or_assoc]
  rfl

end Context

end Lifecycle
end Bottlecap
