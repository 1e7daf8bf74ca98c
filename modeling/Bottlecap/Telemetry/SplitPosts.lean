import Bottlecap.Telemetry.Listener
import Mathlib.Data.Multiset.Basic

namespace Bottlecap
namespace Telemetry

open Foundations Extension

/-!
# Bodies posted one after the other

A body that ends on a cut record is held, and the whole events in it wait with the
record.  If the next body opens with the next piece of that record, in time, then
everything is delivered in the end, and as by one body.  Otherwise the held body is
dropped, with the whole events in it.
-/

section Posts

variable (serde : SerdeJson)

/-- The cut records of the body keep it from being JSON. -/
def Undisturbed (events : List Event) : Prop :=
  (forall event, event ∈ events -> serde.Json event.value) ∨ serde.NotJson (payload events)

/-- The listener has sent some events, and holds the events `ahead` with the record
that is cut. -/
structure HandlerState.Holds (state : HandlerState) (ahead : List Event) (cut : Option Event)
    (since : Nat) (sent : List TelemetryEvent) : Prop where
  isOpen : state.closed = false
  sent : state.logsTx = sent
  held : state.fragments.held =
    cut.map (fun record => ⟨payload (ahead ++ [record]), since⟩)

/-- The events of a held body. -/
structure Waiting (ahead : List Event) (cut : Option Event) : Prop where
  whole : forall event, event ∈ ahead -> Whole serde event.value ∧ event.Enveloped
  record : forall record, cut = some record -> record.kind.isSome = true ∧ record.Enveloped
  closed : cut = none -> ahead = []

/-- The post continues the record that is cut, if one is: it opens with its next piece
and comes in time.  No body that holds cut records is JSON, and what is held after the
post is not too long. -/
structure Continues (ahead : List Event) (cut : Option Event) (since : Nat) (post : Post) :
    Prop where
  nonempty : post.events ≠ []
  opens : forall record, cut = some record ->
    Exists fun piece => Exists fun rest => post.events = piece :: rest ∧ piece.kind = record.kind
  inTime : cut.isSome = true -> post.now - since <= fragmentTtl
  alone : cut.isSome = true -> Exists fun error => serde.fromSlice post.body = Except.error error
  undisturbed : Undisturbed serde (joinedWith ahead cut post.events)
  seams : seamsIn serde none (joinedWith ahead cut post.events) <= maxSeams
  small : forall record, cutBy serde cut post.events = some record ->
    (payload (ahead ++ restoredBy serde cut post.events ++ [record])).length <= maxFragmentBytes

/-- The whole events that are held after some more events. -/
def aheadAfter (ahead : List Event) (cut : Option Event) (events : List Event) : List Event :=
  match cutBy serde cut events with
  | none => []
  | some _ => ahead ++ restoredBy serde cut events

/-- Every post continues what is held before it, and nothing is held after the last. -/
def Continuous : List Event -> Option Event -> Nat -> List Post -> Prop
  | _, cut, _, [] => cut = none
  | ahead, cut, since, post :: posts =>
    Continues serde ahead cut since post ∧
      Continuous (aheadAfter serde ahead cut post.events) (cutBy serde cut post.events) post.now
        posts

variable {serde}

/-! ## One post -/

/-- What the listener does with the outcome of a body that was not forwarded at once. -/
def HandlerState.settle (state : HandlerState) (outcome : Stitch × Option Fragment) :
    HandlerState :=
  match outcome with
  | (.complete events, slot) => (HandlerState.forward events { state with fragments := ⟨slot⟩ }).2
  | (_, slot) => { state with fragments := ⟨slot⟩ }

variable {state : HandlerState} {ahead : List Event} {cut : Option Event} {since : Nat}
  {post : Post} {sent decoded : List TelemetryEvent}

/-- With nothing held, a body is parsed on its own. -/
theorem handle_alone (empty : state.fragments.held = none) (now : Nat) (body : Bytes) :
    (handle serde now body state).2 =
      state.settle (parseOrHold serde now body) := by
  have buffer : state.fragments = ⟨none⟩ := by rw [<- empty]
  cases parsed : serde.fromSlice body with
  | ok =>
    have same : ({ state with fragments := ⟨none⟩ } : HandlerState) = state := by rw [<- buffer]
    simp only [handle, parseOrHold, parsed, HandlerState.settle, same]
  | error =>
    have stitched : FragmentBuffer.stitch serde now body state.fragments =
        ((parseOrHold serde now body).1, ⟨(parseOrHold serde now body).2⟩) := by
      rw [buffer]
      rfl
    simp only [handle, parsed, stitched]
    rcases parseOrHold serde now body with ⟨outcome, slot⟩
    cases outcome <;> rfl

/-- A body that resumes what is held is joined to it, unless nothing comes of that. -/
theorem handle_resumed {head : Fragment} {now : Nat} {body resumed : Bytes} {error : JsonError}
    (held : state.fragments.held = some head) (inTime : now - head.received <= fragmentTtl)
    (resumes : Fragment.resumedBytes body = some resumed)
    (rejected : serde.fromSlice body = Except.error error)
    (useful : (parseOrHold serde now (head.join resumed)).1 ≠ .discarded) :
    (handle serde now body state).2 =
      state.settle (parseOrHold serde now (head.join resumed)) := by
  have fresh : state.fragments.fresh now = some head := by
    rw [FragmentBuffer.fresh, held, Option.filter_some, if_pos (decide_eq_true inTime)]
  have stitched : FragmentBuffer.stitch serde now body state.fragments =
      ((parseOrHold serde now (head.join resumed)).1,
        ⟨(parseOrHold serde now (head.join resumed)).2⟩) := by
    simp only [FragmentBuffer.stitch, fresh, resumes]
    rcases joined : parseOrHold serde now (head.join resumed) with ⟨outcome, slot⟩
    rw [joined] at useful
    cases outcome with
    | discarded => exact absurd rfl useful
    | complete => rfl
    | pending => rfl
  simp only [handle, rejected, stitched]
  rcases parseOrHold serde now (head.join resumed) with ⟨outcome, slot⟩
  cases outcome <;> rfl

theorem Waiting.passes (waiting : Waiting serde ahead cut) (later : List Event) :
    (Orderly serde none later -> Orderly serde none (ahead ++ later)) ∧
      restoredBy serde none (ahead ++ later) = ahead ++ restoredBy serde none later ∧
      cutBy serde none (ahead ++ later) = cutBy serde none later ∧
      seamsIn serde none (ahead ++ later) = seamsIn serde none later :=
  @wholes_pass serde none _ (fun event member => ⟨(waiting.whole event member).1, nofun⟩) later

/-- The record that a piece continues is cut after it as if it had been posted with it. -/
theorem cutAfter_extend {record piece : Event} (same : piece.kind = record.kind) :
    cutAfter serde none (record.extend piece.value) = cutAfter serde (some record) piece := by
  simp only [cutAfter, if_pos same]
  rfl

section Continuing

variable (waiting : Waiting serde ahead cut) (continues : Continues serde ahead cut since post)
  (orderly : Orderly serde cut post.events)
  (enveloped : forall event, event ∈ post.events -> event.Enveloped)

include waiting continues enveloped

/-- The listener does with the post what the stitcher makes of the joined events. -/
theorem handle_joined (holds : state.Holds ahead cut since sent)
    (useful : (parseOrHold serde post.now (payload (joinedWith ahead cut post.events))).1 ≠
      .discarded) :
    (handle serde post.now post.body state).2 =
      state.settle (parseOrHold serde post.now (payload (joinedWith ahead cut post.events))) := by
  cases cut with
  | none =>
    rw [waiting.closed rfl]
    exact handle_alone holds.held post.now post.body
  | some record =>
    rcases continues.opens record rfl with ⟨piece, rest, split, same⟩
    rcases continues.alone rfl with ⟨error, rejected⟩
    have typed : piece.kind.isSome = true := by
      rw [same]
      exact (waiting.record record rfl).1
    have resumes := resumedBytes_payload
      (enveloped piece (by rw [split]; exact List.mem_cons_self)) typed rest
    have joined := join_payload ahead record piece rest since
    rw [split] at useful ⊢
    rw [Post.body, split] at rejected ⊢
    rw [joinedWith, <- joined] at useful ⊢
    exact handle_resumed holds.held (continues.inTime rfl) resumes rejected useful

include orderly

/-- The joined events restore what is held and what is posted. -/
theorem joined_restores :
    Orderly serde none (joinedWith ahead cut post.events) ∧
      restoredBy serde none (joinedWith ahead cut post.events) =
        ahead ++ restoredBy serde cut post.events ∧
      cutBy serde none (joinedWith ahead cut post.events) = cutBy serde cut post.events ∧
      forall event, event ∈ joinedWith ahead cut post.events -> event.Enveloped := by
  -- It is enough to look at what follows the held events.
  have behind : forall events : List Event, Orderly serde none events ->
      restoredBy serde none events = restoredBy serde cut post.events ->
      cutBy serde none events = cutBy serde cut post.events ->
      (forall event, event ∈ events -> event.Enveloped) ->
      Orderly serde none (ahead ++ events) ∧
        restoredBy serde none (ahead ++ events) = ahead ++ restoredBy serde cut post.events ∧
        cutBy serde none (ahead ++ events) = cutBy serde cut post.events ∧
        forall event, event ∈ ahead ++ events -> event.Enveloped := by
    intro events fits restored closed accepted
    have passes := waiting.passes events
    rw [passes.2.1, passes.2.2.1, restored, closed]
    refine ⟨passes.1 fits, rfl, rfl, List.forall_mem_append.mpr ⟨?_, accepted⟩⟩
    exact fun event early => (waiting.whole event early).2
  cases cut with
  | none => exact behind post.events orderly rfl rfl enveloped
  | some record =>
    rcases continues.opens record rfl with ⟨piece, rest, split, same⟩
    rw [split] at orderly enveloped behind ⊢
    have merged := waiting.record record rfl
    have after : cutAfter serde none (record.extend piece.value) =
        cutAfter serde (some record) piece := cutAfter_extend same
    have done : completed serde none (record.extend piece.value) =
        completed serde (some record) piece := by
      simp only [completed, if_pos same]
      rfl
    have fits : Fits serde none (record.extend piece.value) := by
      have fits := orderly.1
      simp only [Fits, if_pos same] at fits
      rcases fits with whole | incomplete
      · exact Or.inl whole
      · exact Or.inr ⟨merged.1, incomplete⟩
    refine behind (record.extend piece.value :: rest) ⟨fits, ?_⟩ ?_ ?_ ?_
    · rw [after]
      exact orderly.2
    · rw [restoredBy, restoredBy, after, done]
    · rw [cutBy, cutBy, List.foldl_cons, List.foldl_cons, after]
    · exact List.forall_mem_cons.mpr ⟨merged.2, (List.forall_mem_cons.mp enveloped).2⟩

/-- The stitcher's outcome for the joined events: complete, or held. -/
theorem parseOrHold_joined :
    (forall decoded, cutBy serde cut post.events = none ->
        Parses serde (ahead ++ restoredBy serde cut post.events) decoded ->
        parseOrHold serde post.now (payload (joinedWith ahead cut post.events)) =
          (.complete decoded, none)) ∧
      forall record, cutBy serde cut post.events = some record ->
        parseOrHold serde post.now (payload (joinedWith ahead cut post.events)) =
          (.pending, some ⟨payload (ahead ++ restoredBy serde cut post.events ++ [record]),
            post.now⟩) := by
  rcases joined_restores waiting continues orderly enveloped with
    ⟨joinedOrderly, restored, closed, accepted⟩
  rcases continues.undisturbed with whole | notJson
  · -- Nothing is cut: the joined events are a payload that parses.
    have passes := @wholes_pass serde none _ (fun event member =>
      ⟨⟨whole event member, joinedOrderly.clean event member⟩, nofun⟩) []
    rw [List.append_nil] at passes
    constructor
    · intro decoded _ parses
      rw [<- restored, passes.2.1, restoredBy, List.append_nil] at parses
      simp only [parseOrHold, parses.fromSlice]
    · intro record cut'
      rw [<- closed, passes.2.2.1] at cut'
      cases cut'
  · have nonempty : joinedWith ahead cut post.events ≠ [] := by
      cases cut with
      | none => exact List.append_ne_nil_of_right_ne_nil ahead continues.nonempty
      | some record =>
        rcases continues.opens record rfl with ⟨piece, rest, split, _⟩
        rw [split]
        exact List.append_ne_nil_of_right_ne_nil ahead (List.cons_ne_nil _ _)
    have stitched := parseOrHold_payload nonempty accepted joinedOrderly continues.seams notJson
      post.now
    rw [restored, closed] at stitched
    exact ⟨stitched.1, fun record cut' => stitched.2 record cut' (continues.small record cut')⟩

/-- A post that continues what is held sends everything, or holds more. -/
theorem handle_continues (holds : state.Holds ahead cut since sent) :
    (forall decoded, cutBy serde cut post.events = none ->
        Parses serde (ahead ++ restoredBy serde cut post.events) decoded ->
        (handle serde post.now post.body state).2.Holds [] none post.now (sent ++ decoded)) ∧
      forall record, cutBy serde cut post.events = some record ->
        (handle serde post.now post.body state).2.Holds (ahead ++ restoredBy serde cut post.events)
          (some record) post.now sent := by
  have stitched := parseOrHold_joined waiting continues orderly enveloped
  constructor
  · intro decoded closed parses
    have outcome := stitched.1 decoded closed parses
    have handled := handle_joined waiting continues enveloped holds (by
      rw [outcome]
      exact nofun)
    rw [handled, outcome, HandlerState.settle,
      forward_open decoded { state with fragments := ⟨none⟩ } holds.isOpen]
    exact ⟨holds.isOpen, congrArg (· ++ decoded) holds.sent, rfl⟩
  · intro record cut'
    have outcome := stitched.2 record cut'
    have handled := handle_joined waiting continues enveloped holds (by
      rw [outcome]
      exact nofun)
    rw [handled, outcome]
    exact ⟨holds.isOpen, holds.sent, rfl⟩

end Continuing

/-- Restored events are whole and stand under envelopes of their types, and so does the
record that is cut. -/
theorem restored_enveloped {events : List Event} (orderly : Orderly serde cut events)
    (enveloped : forall event, event ∈ events -> event.Enveloped)
    (typed : forall record, cut = some record ->
      record.kind.isSome = true ∧ record.Enveloped) :
    (forall event, event ∈ restoredBy serde cut events ->
        Whole serde event.value ∧ event.Enveloped) ∧
      forall record, cutBy serde cut events = some record ->
        record.kind.isSome = true ∧ record.Enveloped := by
  induction events generalizing cut with
  | nil => exact ⟨fun event member => (List.not_mem_nil member).elim, typed⟩
  | cons event _ ih =>
    have own := enveloped event List.mem_cons_self
    have later := fun other member => enveloped other (List.mem_cons_of_mem event member)
    -- What the event completes, and the record that is cut after it.
    have step : (forall other, other ∈ completed serde cut event ->
          Whole serde other.value ∧ other.Enveloped) ∧
        forall record, cutAfter serde cut event = some record ->
          record.kind.isSome = true ∧ record.Enveloped := by
      rcases orderly.1.cases with ⟨whole, _, after, done, _⟩ |
          ⟨_, known, _, after, done, _⟩ | ⟨record, known, _, _, joined⟩
      · rw [after, done]
        refine ⟨fun other member => ?_, typed⟩
        rw [List.mem_singleton.mp member]
        exact ⟨whole, own⟩
      · rw [after, done]
        refine ⟨fun other member => (List.not_mem_nil member).elim, fun record same => ?_⟩
        cases same
        exact ⟨known, own⟩
      · have good := typed record known
        rcases joined with ⟨whole, after, done⟩ | ⟨_, after, done⟩
        · rw [after, done]
          refine ⟨fun other member => ?_, fun record same => by cases same⟩
          rw [List.mem_singleton.mp member]
          exact ⟨whole, good.2⟩
        · rw [after, done]
          refine ⟨fun other member => (List.not_mem_nil member).elim, fun record same => ?_⟩
          cases same
          exact good
    rcases ih orderly.2 later step.2 with ⟨restored, last⟩
    refine ⟨fun other member => ?_, last⟩
    rcases List.mem_append.mp member with first | rest
    · exact step.1 other first
    · exact restored other rest

/-- What waits after some more events. -/
theorem Waiting.after {events : List Event} (waiting : Waiting serde ahead cut)
    (orderly : Orderly serde cut events)
    (enveloped : forall event, event ∈ events -> event.Enveloped) :
    Waiting serde (aheadAfter serde ahead cut events) (cutBy serde cut events) := by
  rcases restored_enveloped orderly enveloped waiting.record with ⟨restored, record⟩
  refine ⟨fun event member => ?_, record, fun closed => ?_⟩
  · rw [aheadAfter] at member
    cases known : cutBy serde cut events with
    | none =>
      rw [known] at member
      exact (List.not_mem_nil member).elim
    | some =>
      rw [known] at member
      rcases List.mem_append.mp member with held | new
      · exact waiting.whole event held
      · exact restored event new
  · rw [aheadAfter, closed]

/-! ## Sequences of posts -/

theorem parses_append {first second : List Event}
    (parses : Parses serde (first ++ second) decoded) :
    Exists fun one => Exists fun two =>
      decoded = one ++ two ∧ Parses serde first one ∧ Parses serde second two := by
  rcases parses with ⟨json, decodes⟩
  rw [List.map_append, List.mapM_append] at decodes
  rcases Option.bind_eq_some_iff.mp decodes with ⟨one, decodesOne, rest⟩
  rcases Option.bind_eq_some_iff.mp rest with ⟨two, decodesTwo, same⟩
  refine ⟨one, two, (Option.some.inj same).symm, ⟨?_, decodesOne⟩, ⟨?_, decodesTwo⟩⟩
  · exact fun event member => json event (List.mem_append_left second member)
  · exact fun event member => json event (List.mem_append_right first member)

/-- The events of a sequence of posts. -/
def postedEvents (posts : List Post) : List Event := posts.flatMap Post.events

/-- A sequence of posts that continue each other sends all its events. -/
theorem after_continuous {posts : List Post} (holds : state.Holds ahead cut since sent)
    (waiting : Waiting serde ahead cut) (continuous : Continuous serde ahead cut since posts)
    (orderly : Orderly serde cut (postedEvents posts))
    (enveloped : forall event, event ∈ postedEvents posts -> event.Enveloped)
    (parses : Parses serde (ahead ++ restoredBy serde cut (postedEvents posts)) decoded) :
    (state.after serde posts).logsTx = sent ++ decoded := by
  induction posts generalizing state ahead cut since sent decoded with
  | nil =>
    have closed : cut = none := continuous
    rw [waiting.closed closed] at parses
    have same : decoded = [] := (Option.some.inj parses.2).symm
    rw [same, List.append_nil]
    exact holds.sent
  | cons post _ ih =>
    rw [postedEvents, List.flatMap_cons] at orderly enveloped parses
    rcases orderly_append.mp orderly with ⟨now, later⟩
    have own := fun event member => enveloped event (List.mem_append_left _ member)
    have rest := fun event member =>
      enveloped event (List.mem_append_right post.events member)
    have step := handle_continues waiting continuous.1 now own holds
    have waits := waiting.after now own
    have continues := continuous.2
    rw [restoredBy_append, <- List.append_assoc] at parses
    rw [aheadAfter] at waits continues
    cases closed : cutBy serde cut post.events with
    | none =>
      rw [closed] at waits continues later parses
      rcases parses_append parses with ⟨one, two, both, first, second⟩
      have sentNow := ih (step.1 one closed first) waits continues later rest
        (by rw [List.nil_append]; exact second)
      rw [both, <- List.append_assoc]
      exact sentNow
    | some record =>
      rw [closed] at waits continues later parses
      exact ih (step.2 record closed) waits continues later rest parses

/-- With nothing held, the listener is ready for any post. -/
theorem holds_initial : HandlerState.initial.Holds [] none 0 [] := ⟨rfl, rfl, rfl⟩

theorem waiting_initial : Waiting serde [] none where
  whole := nofun
  record := nofun
  closed := fun _ => rfl

/-- A sequence of posts with the events of some groups sends these events. -/
theorem posts_deliver {groups : List Group} {posts : List Post}
    (accepted : forall event, event ∈ groups.flatMap Group.posted -> event.Enveloped)
    (proper : forall group, group ∈ groups -> group.Proper serde)
    (parses : Parses serde (groups.flatMap Group.originals) decoded)
    (same : postedEvents posts = groups.flatMap Group.posted)
    (continuous : Continuous serde [] none 0 posts) :
    (HandlerState.initial.after serde posts).logsTx = decoded := by
  have restores := restores_groups proper
  rw [<- same] at accepted restores
  rw [<- restores.restored] at parses
  exact after_continuous holds_initial waiting_initial continuous restores.orderly accepted parses

/-- A post on an empty buffer has nothing to continue. -/
theorem continues_first (nonempty : post.events ≠ []) (undisturbed : Undisturbed serde post.events)
    (seams : seamsIn serde none post.events <= maxSeams)
    (small : forall record, cutBy serde none post.events = some record ->
      (payload (restoredBy serde none post.events ++ [record])).length <= maxFragmentBytes) :
    Continues serde [] none 0 post where
  nonempty := nonempty
  opens := nofun
  inTime := nofun
  alone := nofun
  undisturbed := undisturbed
  seams := seams
  small := small

/-- Joining a body to what is held drops one seam and adds none. -/
theorem joined_seams {events : List Event} (waiting : Waiting serde ahead cut)
    (opens : forall record, cut = some record ->
      Exists fun piece => Exists fun rest => events = piece :: rest ∧ piece.kind = record.kind) :
    seamsIn serde none (joinedWith ahead cut events) <= seamsIn serde cut events := by
  cases cut with
  | none =>
    rw [waiting.closed rfl]
    exact Nat.le_refl _
  | some record =>
    rcases opens record rfl with ⟨piece, rest, split, same⟩
    rw [split, joinedWith, (waiting.passes _).2.2.2, seamsIn, seamsIn, cutAfter_extend same,
      seamBefore]
    omega

variable (serde)

/-- The second of two bodies opens with the next piece of the record that the first ends
on, if it ends on one, and no body that holds cut records is JSON. -/
structure Resumed (first second : List Event) : Prop where
  opens : forall record, cutBy serde none first = some record ->
    Exists fun piece => Exists fun rest => second = piece :: rest ∧ piece.kind = record.kind
  undisturbed : Undisturbed serde first
  alone : (cutBy serde none first).isSome = true -> Exists fun error =>
    serde.fromSlice (payload second) = Except.error error
  joined : Undisturbed serde
    (joinedWith (aheadAfter serde [] none first) (cutBy serde none first) second)

variable {serde}

theorem continuous_of_resumed {first second : Post}
    (resumed : Resumed serde first.events second.events)
    (orderly : Orderly serde none (first.events ++ second.events))
    (enveloped : forall event, event ∈ first.events ++ second.events -> event.Enveloped)
    (closed : cutBy serde none (first.events ++ second.events) = none)
    (bounded : seamsIn serde none (first.events ++ second.events) <= maxSeams)
    (firstNonempty : first.events ≠ []) (secondNonempty : second.events ≠ [])
    (inTime : second.now - first.now <= fragmentTtl)
    (small : forall record, cutBy serde none first.events = some record ->
      (payload (restoredBy serde none first.events ++ [record])).length <= maxFragmentBytes) :
    Continuous serde [] none 0 [first, second] := by
  have waits := waiting_initial.after (orderly_append.mp orderly).1
    (fun event member => enveloped event (List.mem_append_left _ member))
  rw [seamsIn_append] at bounded
  rw [cutBy_append] at closed
  have joinedSeams := joined_seams waits resumed.opens
  have start := continues_first firstNonempty resumed.undisturbed (by omega) small
  refine ⟨start, ⟨secondNonempty, resumed.opens, fun _ => inTime, resumed.alone, resumed.joined,
    by omega, ?_⟩, closed⟩
  intro record known
  rw [closed] at known
  cases known

/-- If the second body resumes what the first ends on, two posts deliver what one post
delivers. -/
theorem two_posts_deliver {groups : List Group} {decoded : List TelemetryEvent}
    (accepted : forall event, event ∈ groups.flatMap Group.posted -> event.Enveloped)
    (proper : forall group, group ∈ groups -> group.Proper serde)
    (bounded : (groups.map Group.seams).sum <= maxSeams)
    (parses : Parses serde (groups.flatMap Group.originals) decoded)
    (undisturbed : Undisturbed serde (groups.flatMap Group.posted))
    {whole first second : Post} (same : whole.events = groups.flatMap Group.posted)
    (split : whole.events = first.events ++ second.events)
    (firstNonempty : first.events ≠ []) (secondNonempty : second.events ≠ [])
    (inTime : second.now - first.now <= fragmentTtl)
    (small : forall record, cutBy serde none first.events = some record ->
      (payload (restoredBy serde none first.events ++ [record])).length <= maxFragmentBytes)
    (resumed : Resumed serde first.events second.events) :
    ((HandlerState.initial.after serde [first, second]).logsTx : Multiset TelemetryEvent) =
      ((HandlerState.initial.after serde [whole]).logsTx : Multiset TelemetryEvent) := by
  have restores := restores_groups proper
  have onePosted : postedEvents [whole] = whole.events := by
    rw [postedEvents, List.flatMap_cons, List.flatMap_nil, List.append_nil]
  have twoPosted : postedEvents [first, second] = whole.events := by
    rw [postedEvents, List.flatMap_cons, List.flatMap_cons, List.flatMap_nil, List.append_nil,
      split]
  have oneContinuous : Continuous serde [] none 0 [whole] := by
    rw [<- same] at restores undisturbed
    refine ⟨continues_first ?_ undisturbed ?_ ?_, restores.closed⟩
    · rw [split]
      exact List.append_ne_nil_of_left_ne_nil firstNonempty _
    · rw [restores.seams]
      exact bounded
    · intro record known
      rw [restores.closed] at known
      cases known
  have twoContinuous : Continuous serde [] none 0 [first, second] := by
    rw [<- same, split] at restores accepted
    exact continuous_of_resumed resumed restores.orderly accepted restores.closed
      (by rw [restores.seams]; exact bounded) firstNonempty secondNonempty inTime small
  rw [posts_deliver accepted proper parses (twoPosted.trans same) twoContinuous,
    posts_deliver accepted proper parses (onePosted.trans same) oneContinuous]

/-! ## Whole events in held bodies -/

variable (serde)

/-- The events that are whole where they stand, after a record that is cut. -/
def wholeIn : Option Event -> List Event -> List Event
  | _, [] => []
  | cut, event :: events =>
    (if serde.Json event.value ∧ cut.all (fun record => event.kind ≠ record.kind) then [event]
      else []) ++ wholeIn (cutAfter serde cut event) events

/-- A body posted while a record is held as cut: if it is held, the whole events in it
are delivered in the end, in order and each as often as it stands there. -/
def HeldEventsSent (before : List Post) (cut : Option Event) (post : Post) (after : List Post) :
    Prop :=
  (HandlerState.initial.after serde (before ++ [post])).fragments.held.isSome = true ->
    forall decoded, ((wholeIn serde cut post.events).map Event.text).mapM serde.event =
        some decoded ->
      decoded.Sublist (HandlerState.initial.after serde (before ++ post :: after)).logsTx

variable {serde}

theorem wholeIn_sublist (cut : Option Event) (events : List Event) :
    (wholeIn serde cut events).Sublist (restoredBy serde cut events) := by
  induction events generalizing cut with
  | nil => exact List.Sublist.refl []
  | cons event _ ih =>
    rw [wholeIn, restoredBy]
    refine List.Sublist.append ?_ (ih _)
    split
    case isTrue whole =>
      have done : completed serde cut event = [event] := by
        cases cut with
        | none => exact if_pos whole.1
        | some record => exact if_neg (of_decide_eq_true whole.2)
      rw [done]
    case isFalse => exact List.nil_sublist _

theorem mapM_cons_eq_some {text : Bytes} {texts : List Bytes}
    (decodes : (text :: texts).mapM serde.event = some decoded) :
    Exists fun head => Exists fun tail =>
      serde.event text = some head ∧ texts.mapM serde.event = some tail ∧
        decoded = head :: tail := by
  rw [List.mapM_cons] at decodes
  rcases Option.bind_eq_some_iff.mp decodes with ⟨head, first, rest⟩
  rcases Option.bind_eq_some_iff.mp rest with ⟨tail, later, same⟩
  exact ⟨head, tail, first, later, (Option.some.inj same).symm⟩

theorem mapM_sublist {texts all : List Bytes} (part : texts.Sublist all)
    {more : List TelemetryEvent} (decodes : all.mapM serde.event = some more)
    (known : texts.mapM serde.event = some decoded) : decoded.Sublist more := by
  induction part generalizing decoded more with
  | slnil =>
    cases known
    exact List.nil_sublist _
  | cons text _ ih =>
    obtain ⟨head, tail, _, decodesTail, rfl⟩ := mapM_cons_eq_some decodes
    exact (ih decodesTail known).cons head
  | cons_cons text _ ih =>
    obtain ⟨head, tail, decodesHead, decodesTail, rfl⟩ := mapM_cons_eq_some decodes
    obtain ⟨knownHead, knownTail, knowsHead, knowsTail, rfl⟩ := mapM_cons_eq_some known
    cases decodesHead.symm.trans knowsHead
    exact (ih decodesTail knowsTail).cons_cons head

/-- What has been sent stays sent. -/
theorem logsTx_after_sublist (state : HandlerState) (posts : List Post) :
    state.logsTx.Sublist (state.after serde posts).logsTx := by
  have forwards : forall (events : List TelemetryEvent) (state : HandlerState),
      state.logsTx.Sublist (state.forward events).2.logsTx := by
    intro events state
    fun_induction HandlerState.forward events state with
    | case1 | case2 => exact List.Sublist.refl _
    | case3 event _ state _ ih => exact (List.sublist_append_left _ _).trans ih
  induction posts generalizing state with
  | nil => exact List.Sublist.refl _
  | cons post _ ih =>
    refine List.Sublist.trans ?_ (ih (handle serde post.now post.body state).2)
    unfold handle
    split
    · exact forwards _ _
    · dsimp only
      split
      next events _ =>
        exact forwards events
          { state with fragments := (state.fragments.stitch serde post.now post.body).2 }
      next => exact List.Sublist.refl _
      next => exact List.Sublist.refl _

/-- Whatever was posted before and is posted later, a held body that is continued until
its record is complete has its whole events delivered. -/
theorem held_events_sent {before next : List Post}
    (holds : (HandlerState.initial.after serde before).Holds ahead cut since sent)
    (waiting : Waiting serde ahead cut)
    (continuous : Continuous serde ahead cut since (post :: next))
    (orderly : Orderly serde cut (postedEvents (post :: next)))
    (enveloped : forall event, event ∈ postedEvents (post :: next) -> event.Enveloped)
    (parses : Parses serde (ahead ++ restoredBy serde cut (postedEvents (post :: next))) decoded)
    (later : List Post) :
    HeldEventsSent serde before cut post (next ++ later) := by
  intro _ whole decodes
  have delivered := after_continuous holds waiting continuous orderly enveloped parses
  have run : HandlerState.initial.after serde (before ++ post :: (next ++ later)) =
      ((HandlerState.initial.after serde before).after serde (post :: next)).after serde later := by
    simp only [HandlerState.after, List.foldl_append, List.foldl_cons]
  have posted : (wholeIn serde cut post.events).Sublist
      (ahead ++ restoredBy serde cut (postedEvents (post :: next))) := by
    rw [postedEvents, List.flatMap_cons, restoredBy_append]
    exact ((wholeIn_sublist cut post.events).trans (List.sublist_append_left _ _)).trans
      (List.sublist_append_right _ _)
  have kept := @logsTx_after_sublist serde
    ((HandlerState.initial.after serde before).after serde (post :: next)) later
  rw [delivered] at kept
  rw [run]
  exact ((mapM_sublist (posted.map Event.text) parses.2 decodes).trans
    (List.sublist_append_right sent decoded)).trans kept

end Posts

/-! ## The line in two bodies -/

/-- The first body ends on the first piece of the line and the end of the runtime. -/
def lineStart : Post := ⟨0, [functionPiece "929" "\"hel", runtimeDone "930"]⟩

def lineEnd : Post := ⟨5, [functionPiece "931" "lo\""]⟩

/-- The first piece alone is cut too. -/
theorem piece_cut :
    cutBy SerdeJson.plain none [functionPiece "929" "\"hel"] =
      some (functionPiece "929" "\"hel") := by
  decide +kernel

theorem line_resumed : Resumed SerdeJson.plain lineStart.events lineEnd.events := by
  refine ⟨?_, Or.inr ⟨⟨1, 72, .syntactic⟩, plain_rejects (by decide +kernel), by decide⟩,
    fun _ => ⟨⟨1, 64, .syntactic⟩, plain_rejects (by decide +kernel)⟩,
    Or.inl (by decide +kernel)⟩
  intro record known
  cases known
  exact ⟨_, _, rfl, rfl⟩

theorem line_small : forall record, cutBy SerdeJson.plain none lineStart.events = some record ->
    (payload (restoredBy SerdeJson.plain none lineStart.events ++ [record])).length <=
      maxFragmentBytes := by
  intro record known
  cases known
  decide +kernel

/-- The pieces of the line in two bodies, split in front of the second piece. -/
theorem two_posts_deliver_line :
    ((HandlerState.initial.after SerdeJson.plain [lineStart, lineEnd]).logsTx :
        Multiset TelemetryEvent) =
      ((HandlerState.initial.after SerdeJson.plain
        [⟨0, [cutLine].flatMap Group.posted⟩]).logsTx : Multiset TelemetryEvent) :=
  two_posts_deliver cutLine_enveloped cutLine_proper (by decide) cutLine_parses
    (Or.inr cutLine_notJson) rfl rfl (List.cons_ne_nil _ _) (List.cons_ne_nil _ _) (by decide)
    line_small line_resumed

/-- The pieces of the line in two bodies, split in front of the end of the runtime:
neither post delivers anything. -/
theorem split_before_runtime_done_loses :
    ¬ forall (serde : SerdeJson) (groups : List Group) (decoded : List TelemetryEvent),
      (forall event, event ∈ groups.flatMap Group.posted -> event.Enveloped) ->
      (forall group, group ∈ groups -> group.Proper serde) ->
      (groups.map Group.seams).sum <= maxSeams ->
      Parses serde (groups.flatMap Group.originals) decoded ->
      Undisturbed serde (groups.flatMap Group.posted) ->
      forall whole first second : Post, whole.events = groups.flatMap Group.posted ->
        whole.events = first.events ++ second.events ->
        first.events ≠ [] -> second.events ≠ [] -> second.now - first.now <= fragmentTtl ->
        (forall record, cutBy serde none first.events = some record ->
          (payload (restoredBy serde none first.events ++ [record])).length <= maxFragmentBytes) ->
        ((HandlerState.initial.after serde [first, second]).logsTx : Multiset TelemetryEvent) =
          ((HandlerState.initial.after serde [whole]).logsTx : Multiset TelemetryEvent) := by
  intro always
  let whole : Post := ⟨0, [cutLine].flatMap Group.posted⟩
  let first : Post := ⟨0, [functionPiece "929" "\"hel"]⟩
  let second : Post := ⟨5, [runtimeDone "930", functionPiece "931" "lo\""]⟩
  have cut : cutBy SerdeJson.plain none first.events = some (functionPiece "929" "\"hel") :=
    piece_cut
  have same := always SerdeJson.plain [cutLine] cutLineEvents cutLine_enveloped cutLine_proper
    (by decide) cutLine_parses (Or.inr cutLine_notJson) whole first second rfl rfl
    (List.cons_ne_nil _ _) (List.cons_ne_nil _ _) (by decide) (by
      intro record known
      cases known
      decide +kernel)
  have none : (HandlerState.initial.after SerdeJson.plain [first, second]).logsTx.length = 0 := by
    decide +kernel
  have both : (HandlerState.initial.after SerdeJson.plain [whole]).logsTx.length = 2 := by
    decide +kernel
  have sizes := congrArg Multiset.card same
  rw [Multiset.coe_card, Multiset.coe_card, none, both] at sizes
  cases sizes

/-- The end of the runtime stands in the body that is held for the rest of the line. -/
theorem held_events_sent_line : HeldEventsSent SerdeJson.plain [] none lineStart [lineEnd] := by
  have restores := restores_groups cutLine_proper
  have continuous : Continuous SerdeJson.plain [] none 0 [lineStart, lineEnd] :=
    continuous_of_resumed line_resumed restores.orderly cutLine_enveloped restores.closed
      (by rw [show lineStart.events ++ lineEnd.events = [cutLine].flatMap Group.posted from rfl,
            restores.seams]; decide)
      (List.cons_ne_nil _ _) (List.cons_ne_nil _ _) (by decide) line_small
  have parses := cutLine_parses
  rw [<- restores.restored] at parses
  exact @held_events_sent SerdeJson.plain [] none 0 lineStart [] cutLineEvents [] [lineEnd]
    holds_initial waiting_initial continuous restores.orderly cutLine_enveloped parses []

/-- When the rest of the line never comes, the end of the runtime is not delivered. -/
theorem runtime_done_lost_with_fragment :
    ¬ forall (serde : SerdeJson) (before : List Post) (ahead : List Event) (cut : Option Event)
        (since : Nat) (sent : List TelemetryEvent) (post : Post) (after : List Post),
      (HandlerState.initial.after serde before).Holds ahead cut since sent ->
      Waiting serde ahead cut ->
      (forall event, event ∈ post.events -> event.Enveloped) ->
      HeldEventsSent serde before cut post after := by
  intro always
  have sent := always SerdeJson.plain [] [] none 0 [] lineStart [] holds_initial waiting_initial
    (by decide +kernel) (by decide +kernel)
    [⟨1788445792930000000, .platformRuntimeDone "abc123" .success none none⟩]
    (by rfl)
  have none : (HandlerState.initial.after SerdeJson.plain [lineStart]).logsTx.length = 0 := by
    decide +kernel
  have short : 1 <= 0 := none ▸ sent.length_le
  omega

end Telemetry
end Bottlecap
