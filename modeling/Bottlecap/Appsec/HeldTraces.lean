import Mathlib.Algebra.Order.Group.Multiset
import Bottlecap.Appsec.Processor
import Bottlecap.Foundations.Machine
import Bottlecap.Foundations.Totals

namespace Bottlecap
namespace Appsec

open Foundations
open Lifecycle (Span)

/-!
# Where a trace goes

A trace that is given to `send_processed_traces` is passed on at once, held and passed on
later, or still held.  Each operation has one balance of the traces that come in, go out
and stay.  The only operation whose balance has a loss is holding a trace in a context
that holds one already: the older trace is overwritten.

On its way a trace gets tags and metrics on its `aws.lambda` span, so traces are compared
without them.
-/

/-- A span without its tags and metrics. -/
def bare (span : Span) : Span := { span with metaTags := ∅, metrics := ∅ }

def frame (trace : Trace) : Trace := trace.map bare

/-- The traces of a list in any order, compared without tags. -/
def bagOf (traces : List Trace) : Multiset Trace := (traces.map frame : List Trace)

theorem bagOf_nil : bagOf [] = 0 := rfl

theorem bagOf_append (first second : List Trace) :
    bagOf (first ++ second) = bagOf first + bagOf second := by
  rw [bagOf, List.map_append]
  rfl

theorem bagOf_eq_zero_iff {traces : List Trace} : bagOf traces = 0 <-> traces = [] := by
  rw [bagOf, Multiset.coe_eq_zero, List.map_eq_nil_iff]

/-! ## Tagging -/

theorem bare_applyTag (env : Env) (findings : Findings) (span : Span)
    (tag : Sigma fun _ : TagName => TagValue) :
    bare (findings.applyTag env span tag) = bare span := by
  rcases tag with ⟨key, value⟩
  cases value with
  | always => rfl
  | appSecEvents => rfl
  | metric => rfl
  | onEvent value =>
    rw [Findings.applyTag]
    cases findings.hasEvents with
    | false => rfl
    | true => cases value <;> rfl

theorem bare_processSpan (env : Env) (findings : Findings) (span : Span) :
    bare (findings.processSpan env span) = bare span := by
  rw [Findings.processSpan]
  split
  all_goals exact foldl_project bare _ (bare_applyTag env findings) _ _

theorem frame_onServiceEntry (env : Env) (findings : Findings) (trace : Trace) :
    frame (onServiceEntry (findings.processSpan env) trace) = frame trace :=
  map_modifyFirst bare (fun span _ => bare_processSpan env findings span) trace

theorem bagOf_tagged (env : Env) (findings : Findings) (trace : Trace) :
    bagOf [onServiceEntry (findings.processSpan env) trace] = bagOf [trace] := by
  rw [bagOf, List.map_singleton, frame_onServiceEntry]
  rfl

/-! ## What is held -/

def Context.held (context : Context) : List Trace := (context.heldTrace.map Prod.fst).toList

def Context.bag (context : Context) : Multiset Trace := bagOf context.held

/-- The traces of some calls of `process_traces`. -/
def passedOn (submitted : List Submission) : List Trace := submitted.flatMap Submission.traces

theorem passedOn_submission (traces : List Trace) (arguments : HoldArguments) :
    passedOn (if traces.isEmpty then [] else [⟨traces, arguments⟩]) = traces := by
  cases traces with
  | nil => rfl
  | cons => exact List.append_nil _

namespace Context

variable (env : Env)

theorem held_of_seen {context : Context} (seen : context.responseSeen = true) :
    context.held = [] := by
  rw [held, context.released seen]
  rfl

/-- Once the response is seen, the trace that was held has been passed on. -/
theorem setResponseSeen_balance (context : Context) :
    (context.setResponseSeen env).1.held = [] ∧
      bagOf (passedOn (context.setResponseSeen env).2) = bagOf context.held := by
  refine ⟨rfl, ?_⟩
  rw [setResponseSeen]
  cases seen : context.responseSeen with
  | true =>
    rw [held_of_seen seen]
    rfl
  | false =>
    rw [held]
    cases context.heldTrace with
    | none => rfl
    | some pair => exact bagOf_tagged env context.findings pair.1

theorem held_holdTrace {context : Context} (pending : context.responseSeen = false)
    (trace : Trace) (arguments : HoldArguments) :
    (context.holdTrace trace arguments).held = [trace] := by
  rw [holdTrace, dif_pos pending]
  rfl

end Context

namespace Processor

variable (env : Env)

/-- The traces held in the buffered contexts. -/
def content (processor : Processor) : Multiset Trace :=
  (processor.contextBuffer.map Context.bag).sum

/-- What an operation passes on and what is held after it make up what was held before
it together with what came in. -/
def Balances (processor : Processor) (result : Processor × List Submission)
    (added : Multiset Trace) : Prop :=
  bagOf (passedOn result.2) + result.1.content = processor.content + added

variable {processor : Processor} {rid : String} {context : Context}

theorem content_of_getContext (found : processor.getContext rid = some context) :
    processor.content = context.bag + (processor.deleteContext rid).content :=
  sum_map_eraseP Context.bag found

theorem content_update (found : processor.getContext rid = some context)
    (change : Context -> Context) :
    (processor.update rid change).content =
      (change context).bag + (processor.deleteContext rid).content :=
  sum_map_modifyFirst Context.bag found

/-- The context that leaves is the difference to the contexts that stay. -/
theorem content_makeRoom (processor : Processor) (rid : String) :
    processor.content =
      ((processor.makeRoom rid).1.map Context.bag).getD 0 +
        ((processor.makeRoom rid).2.map Context.bag).sum := by
  rw [makeRoom]
  cases found : processor.getContext rid with
  | some =>
    exact content_of_getContext found
  | none =>
    by_cases full : processor.contextBuffer.length = processor.capacity
    · rw [if_pos full, content]
      cases processor.contextBuffer with
      | nil => exact (zero_add 0).symm
      | cons => exact List.sum_cons
    · rw [if_neg full]
      exact (zero_add _).symm

theorem newContext_balance (processor : Processor) (rid : String) (change : Context -> Context)
    (empty : (change (Context.new env rid)).held = []) :
    processor.Balances (processor.newContext env rid change) 0 := by
  rw [Balances, add_zero, content_makeRoom processor rid]
  have kept : (processor.newContext env rid change).1.content =
      ((processor.makeRoom rid).2.map Context.bag).sum := by
    change (((processor.makeRoom rid).2 ++ [change (Context.new env rid)]).map _).sum = _
    rw [List.map_append, List.sum_append, List.map_singleton, List.sum_singleton, Context.bag, empty,
      bagOf_nil, add_zero]
  have dropped : bagOf (passedOn (processor.newContext env rid change).2) =
      ((processor.makeRoom rid).1.map Context.bag).getD 0 := by
    rw [newContext]
    rcases processor.makeRoom rid with ⟨dropped, kept⟩
    cases dropped with
    | none => rfl
    | some context => exact (context.setResponseSeen_balance env).2
  rw [kept, dropped]

theorem processInvocationNext_balance (processor : Processor) (rid : String)
    (payload : Option Payload) :
    processor.Balances (processor.processInvocationNext env rid payload) 0 := by
  cases payload with
  | none => exact (zero_add _).trans (add_zero _).symm
  | some payload =>
    exact newContext_balance env processor rid (Context.onFindings (Findings.run payload)) rfl

theorem processInvocationResult_balance (processor : Processor) (rid : String)
    (response : Response) :
    processor.Balances (processor.processInvocationResult env rid response) 0 := by
  rw [processInvocationResult]
  cases found : processor.getContext rid with
  | none => exact (zero_add _).trans (add_zero _).symm
  | some context =>
    have balance := (context.onFindings response.evaluate).setResponseSeen_balance env
    have same : (context.onFindings response.evaluate).held = context.held := rfl
    simp only [Balances]
    rw [content_update found, Context.bag, balance.1, balance.2, bagOf_nil, zero_add, add_zero,
      content_of_getContext found]
    rfl

/-! ## What is overwritten -/

/-- The trace that an offered trace overwrites. -/
def overwritten (processor : Processor) (trace : Trace) : List Trace :=
  match processor.contextOf trace with
  | none => []
  | some context => context.held

theorem getContext_of_contextOf {trace : Trace}
    (found : processor.contextOf trace = some context) :
    processor.getContext context.rid = some context := by
  rcases Option.bind_eq_some_iff.mp found with ⟨rid, _, first⟩
  have same : (isFor rid context) = true := List.find?_some first
  rw [eq_of_beq same]
  exact first

/-- A trace that is offered is kept or held, and what it overwrites is gone. -/
theorem offer_balance (processor : Processor) (arguments : HoldArguments) (trace : Trace) :
    bagOf (processor.offer env arguments trace).2.toList +
        (processor.offer env arguments trace).1.content + bagOf (processor.overwritten trace) =
      processor.content + bagOf [trace] := by
  rw [offer, overwritten]
  cases owner : processor.contextOf trace with
  | none => exact (add_zero _).trans (add_comm _ _)
  | some context =>
    have found := getContext_of_contextOf owner
    cases seen : context.responseSeen with
    | true =>
      simp only [seen, if_true]
      rw [content_of_getContext found, Context.bag, Context.held_of_seen seen, bagOf_nil, add_zero,
        zero_add, Option.toList_some, bagOf_tagged, add_comm]
    | false =>
      simp only [seen, Bool.false_eq_true, if_false]
      rw [content_update found, Context.bag, Context.held_holdTrace seen, bagOf_tagged,
        content_of_getContext found, Option.toList_none, bagOf_nil, Context.bag]
      ac_rfl

/-- The traces that are overwritten while some traces are offered one after the other. -/
def overwrittenBy (arguments : HoldArguments) : Processor -> List Trace -> List Trace
  | _, [] => []
  | processor, trace :: rest =>
    processor.overwritten trace ++
      overwrittenBy arguments (processor.offer env arguments trace).1 rest

theorem offerAll_balance (arguments : HoldArguments) (traces : List Trace)
    (processor : Processor) :
    bagOf (offerAll env arguments processor traces).2 +
        (offerAll env arguments processor traces).1.content +
        bagOf (overwrittenBy env arguments processor traces) =
      processor.content + bagOf traces := by
  induction traces generalizing processor with
  | nil => exact (add_zero _).trans (add_comm _ _)
  | cons trace rest ih =>
    have first := offer_balance env processor arguments trace
    have later := ih (processor.offer env arguments trace).1
    rw [offerAll, overwrittenBy, <- List.singleton_append, bagOf_append, bagOf_append,
      bagOf_append, <- add_assoc processor.content, <- first]
    calc
      _ = bagOf (processor.offer env arguments trace).2.toList +
          bagOf (processor.overwritten trace) +
          (bagOf (offerAll env arguments (processor.offer env arguments trace).1 rest).2 +
            (offerAll env arguments (processor.offer env arguments trace).1 rest).1.content +
            bagOf (overwrittenBy env arguments (processor.offer env arguments trace).1 rest)) := by
          ac_rfl
      _ = _ := by
          rw [later]
          ac_rfl

/-- The traces that a call overwrites. -/
def overwrites (processor : Processor) : Call -> List Trace
  | .sendProcessedTraces traces arguments => overwrittenBy env arguments processor traces
  | _ => []

/-- The balance of a call: what comes in is passed on, held, or overwrites something. -/
theorem handle_balance (processor : Processor) (call : Call) :
    bagOf (passedOn (processor.handle env call).2) + (processor.handle env call).1.content +
        bagOf (processor.overwrites env call) =
      processor.content + bagOf call.traces := by
  cases call with
  | processInvocationNext rid payload =>
    have balance := processInvocationNext_balance env processor rid payload
    exact (add_zero _).trans balance
  | processInvocationResult rid response =>
    have balance := processInvocationResult_balance env processor rid response
    exact (add_zero _).trans balance
  | sendProcessedTraces traces arguments =>
    have balance := offerAll_balance env arguments traces processor
    change bagOf (passedOn (if (offerAll env arguments processor traces).2.isEmpty then []
      else [⟨(offerAll env arguments processor traces).2, arguments⟩])) + _ + _ = _
    rw [passedOn_submission]
    exact balance

/-! ## When nothing is overwritten -/

/-- The context of the trace's request holds a trace already. -/
def Occupied (processor : Processor) (trace : Trace) : Prop :=
  Exists fun context => processor.contextOf trace = some context ∧ context.heldTrace.isSome = true

theorem overwritten_eq_nil_iff {processor : Processor} {trace : Trace} :
    processor.overwritten trace = [] <-> ¬ processor.Occupied trace := by
  rw [overwritten, Occupied]
  cases processor.contextOf trace with
  | none =>
    refine ⟨fun _ => ?_, fun _ => rfl⟩
    rintro ⟨context, found, _⟩
    cases found
  | some context =>
    have only : (Exists fun other => some context = some other ∧ other.heldTrace.isSome = true) <->
        context.heldTrace.isSome = true := by
      constructor
      · rintro ⟨other, same, holds⟩
        cases same
        exact holds
      · intro holds
        exact ⟨context, rfl, holds⟩
    rw [only]
    change (context.heldTrace.map Prod.fst).toList = [] <-> _
    cases context.heldTrace with
    | none => exact ⟨fun _ => Bool.false_ne_true, fun _ => rfl⟩
    | some => exact ⟨fun empty => (by cases empty), fun free => absurd rfl free⟩

/-- No trace of the call is offered to a context that holds one. -/
def Clear (processor : Processor) : Call -> Prop
  | .sendProcessedTraces traces arguments =>
    Machine.Along (fun current trace => (current.offer env arguments trace).1)
      (fun current trace => ¬ current.Occupied trace) processor traces
  | _ => True

theorem overwrittenBy_eq_nil_iff (arguments : HoldArguments) (traces : List Trace)
    (processor : Processor) :
    overwrittenBy env arguments processor traces = [] <->
      Machine.Along (fun current trace => (current.offer env arguments trace).1)
        (fun current trace => ¬ current.Occupied trace) processor traces := by
  induction traces generalizing processor with
  | nil => exact ⟨fun _ => trivial, fun _ => rfl⟩
  | cons _ _ ih =>
    rw [overwrittenBy, List.append_eq_nil_iff, overwritten_eq_nil_iff, ih]
    rfl

theorem overwrites_eq_nil_iff (processor : Processor) (call : Call) :
    processor.overwrites env call = [] <-> processor.Clear env call := by
  cases call with
  | sendProcessedTraces traces arguments => exact overwrittenBy_eq_nil_iff env arguments traces processor
  | processInvocationNext | processInvocationResult => exact ⟨fun _ => trivial, fun _ => rfl⟩

end Processor

namespace History

/-- Every trace given so far was passed on exactly once or is still held, and no other trace
was passed on. -/
def Balanced (history : History) : Prop :=
  bagOf (passedOn history.submitted) + history.processor.content = bagOf history.given

theorem step_balanced_iff (env : Env) (history : History) (call : Call)
    (balanced : history.Balanced) :
    (history.step env call).Balanced <-> history.processor.Clear env call := by
  have balance := history.processor.handle_balance env call
  have submitted : bagOf (passedOn (history.step env call).submitted) =
      bagOf (passedOn history.submitted) +
        bagOf (passedOn (history.processor.handle env call).2) := by
    rw [<- bagOf_append, passedOn, passedOn, passedOn, <- List.flatMap_append]
    rfl
  have given : bagOf (history.step env call).given = bagOf history.given + bagOf call.traces :=
    bagOf_append history.given call.traces
  rw [<- Processor.overwrites_eq_nil_iff, <- bagOf_eq_zero_iff]
  have total : bagOf (passedOn (history.step env call).submitted) +
      (history.step env call).processor.content + bagOf (history.processor.overwrites env call) =
      bagOf (history.step env call).given := by
    calc
      _ = bagOf (passedOn history.submitted) +
          (bagOf (passedOn (history.processor.handle env call).2) +
            (history.processor.handle env call).1.content +
            bagOf (history.processor.overwrites env call)) := by
          rw [submitted]
          ac_rfl
      _ = bagOf (passedOn history.submitted) + history.processor.content + bagOf call.traces := by
          rw [balance, add_assoc]
      _ = bagOf (history.step env call).given := by
          rw [given, balanced]
  rw [Balanced, <- total]
  exact left_eq_add

/-- In every run, no trace is lost or duplicated exactly if no trace is offered to a context
that holds one. -/
theorem traces_balanced_iff (env : Env) (capacity : Nat) (calls : List Call) :
    Machine.Always (step env) Balanced (start (Processor.withCapacity capacity)) calls <->
      Machine.Along (step env) (fun history call => history.processor.Clear env call)
        (start (Processor.withCapacity capacity)) calls := by
  have steps := Machine.always_iff_along (step_balanced_iff env)
    (start (Processor.withCapacity capacity)) calls
  have empty : (start (Processor.withCapacity capacity)).Balanced := rfl
  rw [steps]
  exact and_iff_right empty

/-! ## Two traces of one request -/

/-- A processor that takes the tags in the order in which they are listed. -/
def plainEnv : Env := ⟨"1.0", "", 1, fun _ => "", Logs.IterationOrder.listed _⟩

/-- A trace with the `aws.lambda` span of the request `r1`. -/
def lambdaTrace (spanId : UInt64) : Trace :=
  [{ name := "aws.lambda", spanId := spanId, metaTags := (∅ : Lifecycle.Tags).insert "request_id" "r1" }]

def twoTraces : List Call :=
  [.processInvocationNext "r1" (some ⟨.raw, [], none⟩),
    .sendProcessedTraces [lambdaTrace 1] ⟨0, none, ∅⟩,
    .sendProcessedTraces [lambdaTrace 2] ⟨0, none, ∅⟩,
    .processInvocationResult "r1" ⟨fun _ => none, none⟩]

/-- The second trace overwrites the first, and the response releases only the second. -/
theorem second_trace_overwrites :
    let history := twoTraces.foldl (step plainEnv) (start Processor.new)
    (passedOn history.submitted).map (List.map Span.spanId) = [[2]] ∧
      history.processor.contextBuffer.map Context.held = [[]] ∧ ¬ history.Balanced := by
  intro history
  have passed : (passedOn history.submitted).map (List.map Span.spanId) = [[2]] := by decide +kernel
  have held : history.processor.contextBuffer.map Context.held = [[]] := by rfl
  refine ⟨passed, held, fun balanced => ?_⟩
  have content : history.processor.content = 0 := by
    have bags := congrArg (fun lists : List (List Trace) => (lists.map bagOf).sum) held
    exact bags
  rw [Balanced, content, add_zero] at balanced
  have lengths := congrArg Multiset.card balanced
  rw [bagOf, bagOf, Multiset.coe_card, Multiset.coe_card] at lengths
  have one : (passedOn history.submitted).length = 1 := by
    rfl
  cases lengths

end History
end Appsec
end Bottlecap
