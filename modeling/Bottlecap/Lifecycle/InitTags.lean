import Bottlecap.Lifecycle.Handlers

namespace Bottlecap
namespace Lifecycle

open Foundations

/-!
# Cold starts

`set_init_tags` takes an invocation for the first of its sandbox when the context
buffer is empty.  The buffer is also emptied by every report that arrives before
the next invocation, and the tag of a proactive initialization, once set, is never
removed.  An invocation is therefore marked warm exactly if another context is
still buffered and no proactive initialization was tagged before.
-/

namespace Processor

variable (env : Env) (ambient : Ambient)

/-- The arguments of a call of `enhanced_metrics.set_init_tags`. -/
def initTagCall : Effect -> Option (Bool × Bool)
  | .setInitTags proactiveInitialization coldStart =>
    some (proactiveInitialization, coldStart)
  | _ => none

def initTagCalls (processor : Processor) : List (Bool × Bool) :=
  processor.effects.filterMap initTagCall

/-- An invocation is marked warm: neither a cold start nor a proactive
initialization, in the tags and in the one call of the metrics. -/
structure MarkedWarm (before after : Processor) : Prop where
  coldStart : after.dynamicTags.lookup "cold_start" = some "false"
  notProactive : "proactive_initialization" ∉ after.dynamicTags
  called : after.initTagCalls = before.initTagCalls ++ [(false, false)]

/-! ## What the rest of an invocation leaves alone -/

/-- The tags and the calls that mark the invocations. -/
def marks (processor : Processor) : Tags × List (Bool × Bool) :=
  (processor.dynamicTags, processor.initTagCalls)

variable (processor : Processor)

theorem marks_emit {effect : Effect} (other : initTagCall effect = none) :
    (processor.emit effect).marks = processor.marks := by
  unfold marks initTagCalls emit
  simp only [List.filterMap_append, List.filterMap_cons, other, List.filterMap_nil, List.append_nil]

theorem marks_onContexts (change : ContextBuffer -> ContextBuffer) :
    (processor.onContexts change).marks = processor.marks := rfl

theorem marks_processStart (requestId : String) (event : UniversalInstrumentationData) :
    (processor.processOnUniversalInstrumentationStart env ambient requestId event).marks =
      processor.marks := by
  unfold processOnUniversalInstrumentationStart recordDsmConsumeFromPayload
  split
  · exact marks_emit processor rfl
  · have updated : ((processor.onContexts (ContextBuffer.update requestId
        (Context.onUniversalInstrumentationStart env ambient event))).emit
        (.processedStart requestId event true)).marks = processor.marks :=
      marks_emit _ rfl
    split
    · split
      · exact updated
      · rw [foldl_project marks _ (fun current checkpoint => marks_emit current rfl)]
        exact updated
    · exact updated

theorem marks_pairInvocation (requestId : String) :
    (processor.pairInvocation env ambient requestId).marks = processor.marks := by
  unfold pairInvocation
  simp only
  split
  · exact marks_processStart env ambient _ requestId _
  · split
    · rfl
    · split
      · exact marks_processStart env ambient _ requestId _
      · rfl

theorem marks_countInvocation :
    (processor.countInvocation env ambient).marks = processor.marks := by
  unfold countInvocation
  rw [marks_emit _ rfl]
  split
  · rfl
  · split
    · exact marks_emit processor rfl
    · exact marks_emit processor rfl

theorem marks_monitorUsage (requestId : String) :
    (processor.monitorUsage env ambient requestId).marks = processor.marks := by
  unfold monitorUsage
  split
  · simp only [marks_onContexts]
    split
    · split
      · exact marks_emit _ rfl
      · rfl
    · exact marks_emit processor rfl
  · rfl

/-- In On-Demand mode the marks of an invocation are those of `set_init_tags`. -/
theorem marks_onInvokeEvent (onDemand : env.isManagedInstanceMode = false) (requestId : String) :
    (processor.onInvokeEvent env ambient requestId).marks =
      (processor.setInitTags env ambient).marks := by
  unfold onInvokeEvent
  rw [marks_pairInvocation, marks_countInvocation, marks_monitorUsage]
  unfold enterInvocation
  rw [if_neg (fun awaiting => Bool.noConfusion (onDemand.symm.trans awaiting.1))]
  rfl

/-! ## The marks -/

/-- The tags before the runtime is added to them. -/
def classTags (proactiveInitialization coldStart : Bool) (tags : Tags) : Tags :=
  let tags := tags.insert "cold_start" (toString coldStart)
  if proactiveInitialization then tags.insert "proactive_initialization" "true" else tags

theorem classTags_coldStart (proactiveInitialization coldStart : Bool) (tags : Tags) :
    (classTags proactiveInitialization coldStart tags).lookup "cold_start" =
      some (toString coldStart) := by
  unfold classTags
  cases proactiveInitialization with
  | false => exact AList.lookup_insert _
  | true =>
    simp only [if_true]
    rw [AList.lookup_insert_ne (by decide)]
    exact AList.lookup_insert _

theorem mem_classTags_proactive (proactiveInitialization coldStart : Bool) (tags : Tags) :
    "proactive_initialization" ∈ classTags proactiveInitialization coldStart tags <->
      proactiveInitialization = true ∨ "proactive_initialization" ∈ tags := by
  unfold classTags
  cases proactiveInitialization with
  | false =>
    simp only [Bool.false_eq_true, if_false, false_or, AList.mem_insert]
    exact or_iff_right (by decide)
  | true => simp only [if_true, AList.mem_insert, true_or]

/-- The runtime tag is added last, and only if the runtime is known. -/
theorem setInitTags_dynamicTags (onDemand : env.isManagedInstanceMode = false) :
    let marked := classTags (processor.classifyInit env ambient).1
      (processor.classifyInit env ambient).2 processor.dynamicTags
    (processor.setInitTags env ambient).dynamicTags = marked ∨
      Exists fun runtime =>
        (processor.setInitTags env ambient).dynamicTags = marked.insert "runtime" runtime := by
  unfold setInitTags classTags
  simp only [onDemand]
  cases if processor.contextBuffer.isEmpty = true then some ambient.runtime else processor.runtime with
  | none => exact Or.inl rfl
  | some runtime => exact Or.inr ⟨runtime, rfl⟩

theorem setInitTags_coldStart (onDemand : env.isManagedInstanceMode = false) :
    (processor.setInitTags env ambient).dynamicTags.lookup "cold_start" =
      some (toString (processor.classifyInit env ambient).2) := by
  rcases setInitTags_dynamicTags env ambient processor onDemand with same | ⟨runtime, same⟩
  · rw [same, classTags_coldStart]
  · rw [same, AList.lookup_insert_ne (by decide), classTags_coldStart]

theorem mem_setInitTags_proactive (onDemand : env.isManagedInstanceMode = false) :
    "proactive_initialization" ∈ (processor.setInitTags env ambient).dynamicTags <->
      (processor.classifyInit env ambient).1 = true ∨
        "proactive_initialization" ∈ processor.dynamicTags := by
  rcases setInitTags_dynamicTags env ambient processor onDemand with same | ⟨runtime, same⟩
  · rw [same, mem_classTags_proactive]
  · rw [same, AList.mem_insert, mem_classTags_proactive]
    exact or_iff_right (by decide)

theorem setInitTags_calls :
    (processor.setInitTags env ambient).initTagCalls =
      processor.initTagCalls ++ [processor.classifyInit env ambient] := by
  unfold setInitTags
  cases if processor.contextBuffer.isEmpty = true then some ambient.runtime else processor.runtime with
  | none =>
    simp only [initTagCalls, emit, List.filterMap_append, List.filterMap_cons, initTagCall,
      List.filterMap_nil]
  | some =>
    simp only [initTagCalls, emit, List.filterMap_append, List.filterMap_cons, initTagCall,
      List.filterMap_nil, List.append_nil]

/-- Only an empty buffer makes an invocation anything but warm. -/
theorem classifyInit_eq_warm_iff :
    processor.classifyInit env ambient = (false, false) <->
      processor.contextBuffer.isEmpty = false := by
  unfold classifyInit
  cases processor.contextBuffer.isEmpty with
  | false => exact ⟨fun _ => rfl, fun _ => rfl⟩
  | true =>
    simp only [if_true]
    refine ⟨fun warm => ?_, fun impossible => Bool.noConfusion impossible⟩
    split at warm
    · cases warm
    · split at warm <;> cases warm

/-- In every run of On-Demand mode, an invocation is marked warm exactly if a
context is still buffered when it arrives and no proactive initialization was
tagged before. -/
theorem invocation_markedWarm_iff (onDemand : env.isManagedInstanceMode = false)
    (history : List Input) (requestId : String) :
    let before := Processor.new.run env history
    MarkedWarm before (before.step env ⟨ambient, .invokeEvent requestId⟩) <->
      before.contextBuffer.isEmpty = false ∧
        "proactive_initialization" ∉ before.dynamicTags := by
  intro before
  have marked : (before.step env ⟨ambient, .invokeEvent requestId⟩).marks =
      (before.setInitTags env ambient).marks :=
    marks_onInvokeEvent env ambient before onDemand requestId
  have tags := congrArg Prod.fst marked
  have calls := congrArg Prod.snd marked
  simp only [marks] at tags calls
  constructor
  · rintro ⟨_, notProactive, called⟩
    rw [calls, setInitTags_calls] at called
    rw [tags, mem_setInitTags_proactive env ambient _ onDemand] at notProactive
    have warm : before.classifyInit env ambient = (false, false) :=
      List.cons.inj (List.append_cancel_left called) |>.1
    exact ⟨(classifyInit_eq_warm_iff env ambient before).mp warm,
      fun tagged => notProactive (Or.inr tagged)⟩
  · rintro ⟨buffered, untagged⟩
    have warm := (classifyInit_eq_warm_iff env ambient before).mpr buffered
    refine ⟨?_, ?_, ?_⟩
    · rw [tags, setInitTags_coldStart env ambient _ onDemand, warm]
      rfl
    · rw [tags, mem_setInitTags_proactive env ambient _ onDemand, warm]
      rintro (impossible | tagged)
      · cases impossible
      · exact untagged tagged
    · rw [calls, setInitTags_calls, warm]

/-- The report of the first invocation is still to come. -/
theorem invocation_markedWarm_unreported :
    let before := Processor.new.run (Env.plain false) [(Command.invokeEvent "r1").still]
    MarkedWarm before (before.step (Env.plain false) (Command.invokeEvent "r2").still) :=
  (invocation_markedWarm_iff (Env.plain false) Ambient.still rfl
    [(Command.invokeEvent "r1").still] "r2").mpr ⟨rfl, by decide⟩

/-- Once the first invocation is reported, the second one is a cold start again. -/
theorem second_invocation_marked_cold :
    ¬ forall (env : Env) (history : List Input) (ambient : Ambient) (requestId : String),
      env.isManagedInstanceMode = false ->
      (Exists fun earlier => earlier ∈ history ∧
        Exists fun first => earlier.command = .invokeEvent first) ->
      let before := Processor.new.run env history
      MarkedWarm before (before.step env ⟨ambient, Command.invokeEvent requestId⟩) := by
  intro always
  have warm := always (Env.plain false)
    [(Command.invokeEvent "r1").still, (Command.reportOf "r1").still] Ambient.still "r2" rfl
    ⟨(Command.invokeEvent "r1").still, List.mem_cons_self, "r1", rfl⟩
  have cold : (Processor.step (Env.plain false) (Processor.new.run (Env.plain false)
      [(Command.invokeEvent "r1").still, (Command.reportOf "r1").still])
      (Command.invokeEvent "r2").still).dynamicTags.lookup "cold_start" = some "true" := by decide
  have same := warm.coldStart.symm.trans cold
  exact absurd same (by decide)

end Processor
end Lifecycle
end Bottlecap
