import Bottlecap.Telemetry.PlainJson

namespace Bottlecap
namespace Telemetry

open Foundations Extension

/-!
# Cut records in one body

A body is a list of groups: whole events, and records cut into consecutive pieces
with whole events of other types between them.  The stitcher restores the events of
such a body, each cut record under the envelope of its first piece and the events
that stood between its pieces just ahead of it.
-/

/-- A later piece of a record, with the events that stand in front of it. -/
structure Segment where
  between : List Event
  piece : Event

inductive Group where
  | whole (event : Event)
  | cut (first : Event) (rest : List Segment)

/-- The bytes of the later pieces of a record. -/
def pieces (rest : List Segment) : Bytes := rest.flatMap (fun segment => segment.piece.value)

/-- The later pieces and the events between them, as they are posted. -/
def postedAfter (rest : List Segment) : List Event :=
  rest.flatMap (fun segment => segment.between ++ [segment.piece])

namespace Group

/-- The events of the body. -/
def posted : Group -> List Event
  | whole event => [event]
  | cut first rest => first :: postedAfter rest

/-- The original events, in the order in which they are restored. -/
def originals : Group -> List Event
  | whole event => [event]
  | cut first rest => rest.flatMap Segment.between ++ [first.extend (pieces rest)]

def seams : Group -> Nat
  | whole _ => 0
  | cut _ rest => rest.length

end Group

section Restoring

variable (serde : SerdeJson)

/-- A record cut into pieces: no run of its first pieces is JSON, and between its
pieces stand whole events of other types. -/
structure CutInto (first : Event) (rest : List Segment) : Prop where
  typed : first.kind.isSome = true
  several : rest ≠ []
  whole : Whole serde (first.value ++ pieces rest)
  cut : forall count, count < rest.length ->
    ¬ serde.Json (first.value ++ pieces (rest.take count))
  nonempty : forall segment, segment ∈ rest -> segment.piece.value ≠ []
  sameType : forall segment, segment ∈ rest -> segment.piece.kind = first.kind
  between : forall segment, segment ∈ rest -> forall event, event ∈ segment.between ->
    Whole serde event.value ∧ event.kind ≠ first.kind

def Group.Proper : Group -> Prop
  | whole event => Whole serde event.value
  | cut first rest => CutInto serde first rest

/-- The events restore the originals across so many seams. -/
structure Restores (cut : Option Event) (events originals : List Event) (seams : Nat) : Prop where
  orderly : Orderly serde cut events
  restored : restoredBy serde cut events = originals
  closed : cutBy serde cut events = none
  seams : seamsIn serde cut events = seams

variable {serde}

theorem Restores.nil : Restores serde none [] [] 0 := ⟨trivial, rfl, rfl, rfl⟩

theorem Restores.cons {cut next : Option Event} {event : Event}
    {events made originals restored : List Event} {seams : Nat} (fits : Fits serde cut event)
    (after : cutAfter serde cut event = next) (done : completed serde cut event = made)
    (tail : Restores serde next events originals seams) (both : made ++ originals = restored) :
    Restores serde cut (event :: events) restored (seams + seamBefore cut event) := by
  subst after done both
  refine ⟨⟨fits, tail.orderly⟩, ?_, tail.closed, ?_⟩
  · rw [restoredBy, tail.restored]
  · rw [seamsIn, tail.seams, Nat.add_comm]

theorem Restores.append {cut : Option Event} {first second firstOriginals secondOriginals :
    List Event} {firstSeams secondSeams : Nat}
    (one : Restores serde cut first firstOriginals firstSeams)
    (two : Restores serde none second secondOriginals secondSeams) :
    Restores serde cut (first ++ second) (firstOriginals ++ secondOriginals)
      (firstSeams + secondSeams) := by
  constructor
  · exact orderly_append.mpr ⟨one.orderly, by rw [one.closed]; exact two.orderly⟩
  · rw [restoredBy_append, one.restored, one.closed, two.restored]
  · rw [cutBy_append, one.closed, two.closed]
  · rw [seamsIn_append, one.seams, one.closed, two.seams]

/-- Whole events pass, while no record is cut or one of another type. -/
theorem wholes_pass {cut : Option Event} {events : List Event}
    (whole : forall event, event ∈ events -> Whole serde event.value ∧
      forall record, cut = some record -> event.kind ≠ record.kind) (later : List Event) :
    (Orderly serde cut later -> Orderly serde cut (events ++ later)) ∧
      restoredBy serde cut (events ++ later) = events ++ restoredBy serde cut later ∧
      cutBy serde cut (events ++ later) = cutBy serde cut later ∧
      seamsIn serde cut (events ++ later) = seamsIn serde cut later := by
  induction events with
  | nil => exact ⟨id, rfl, rfl, rfl⟩
  | cons event _ ih =>
    rw [List.forall_mem_cons] at whole
    rcases whole.1 with ⟨value, other⟩
    have fits : Fits serde cut event := by
      cases cut with
      | none => exact Or.inl value
      | some record =>
        simp only [Fits, if_neg (other record rfl)]
        exact value
    have passes : cutAfter serde cut event = cut ∧ completed serde cut event = [event] ∧
        seamBefore cut event = 0 := by
      cases cut with
      | none => exact ⟨if_pos value.1, if_pos value.1, rfl⟩
      | some record =>
        exact ⟨if_neg (other record rfl), if_neg (other record rfl), if_neg (other record rfl)⟩
    rcases passes with ⟨after, done, none⟩
    rcases ih whole.2 with
      ⟨orderly, restored, closed, seams⟩
    rw [List.cons_append, Orderly, restoredBy, cutBy, List.foldl_cons, seamsIn, after, done, none,
      restored, seams]
    exact ⟨fun fitting => ⟨fits, orderly fitting⟩, rfl, closed, Nat.zero_add _⟩

/-- The record that a piece extends is cut into the later pieces. -/
theorem CutInto.next {record : Event} {segment next : Segment} {rest : List Segment}
    (into : CutInto serde record (segment :: next :: rest)) :
    CutInto serde (record.extend segment.piece.value) (next :: rest) := by
  have joined : (record.extend segment.piece.value).value ++ pieces (next :: rest) =
      record.value ++ pieces (segment :: next :: rest) :=
    List.append_assoc record.value segment.piece.value _
  refine ⟨into.typed, List.cons_ne_nil _ _, joined ▸ into.whole, fun count bound => ?_, ?_, ?_, ?_⟩
  · have notJson := into.cut (count + 1) (Nat.succ_lt_succ bound)
    rw [Event.extend, List.append_assoc]
    exact notJson
  · exact fun other member => into.nonempty other (List.mem_cons_of_mem _ member)
  · exact fun other member => into.sameType other (List.mem_cons_of_mem _ member)
  · exact fun other member => into.between other (List.mem_cons_of_mem _ member)

/-- The record is incomplete in front of its last piece. -/
theorem CutInto.incomplete {record : Event} {rest : List Segment}
    (into : CutInto serde record rest) : Incomplete serde record.value := by
  have notJson := into.cut 0 (List.length_pos_of_ne_nil into.several)
  rw [List.take_zero, pieces, List.flatMap_nil, List.append_nil] at notJson
  refine ⟨notJson, pieces rest, ?_, into.whole⟩
  cases rest with
  | nil => exact absurd rfl into.several
  | cons segment =>
    exact List.append_ne_nil_of_left_ne_nil (into.nonempty segment List.mem_cons_self) _

/-- The later pieces complete a record.  By induction on the pieces: the record has
taken the bytes of those before. -/
theorem restores_pieces {record : Event} {rest : List Segment}
    (into : CutInto serde record rest) :
    Restores serde (some record) (postedAfter rest)
      (rest.flatMap Segment.between ++ [record.extend (pieces rest)]) rest.length := by
  induction rest generalizing record with
  | nil => exact absurd rfl into.several
  | cons segment rest ih =>
    have passes := wholes_pass (fun event listed =>
      have between := into.between segment List.mem_cons_self event listed
      ⟨between.1, fun other (same : some record = some other) => by
        cases same
        exact between.2⟩) (segment.piece :: postedAfter rest)
    have same := into.sameType segment List.mem_cons_self
    -- The piece itself, and what follows it.
    have piece : Restores serde (some record) (segment.piece :: postedAfter rest)
        (rest.flatMap Segment.between ++ [record.extend (pieces (segment :: rest))])
        (rest.length + 1) := by
      have seam : seamBefore (some record) segment.piece = 1 := if_pos same
      cases rest with
      | nil =>
        have whole : Whole serde (record.value ++ segment.piece.value) := by
          have whole := into.whole
          rw [pieces, List.flatMap_cons, List.flatMap_nil, List.append_nil] at whole
          exact whole
        have after : cutAfter serde (some record) segment.piece = none := by
          simp only [cutAfter, if_pos same, if_pos whole.1]
        have done : completed serde (some record) segment.piece =
            [record.extend (pieces [segment])] := by
          simp only [completed, if_pos same, if_pos whole.1, pieces, List.flatMap_cons,
            List.flatMap_nil, List.append_nil]
        have fits : Fits serde (some record) segment.piece := by
          simp only [Fits, if_pos same]
          exact Or.inl whole
        exact seam ▸ Restores.cons fits after done Restores.nil rfl
      | cons next rest =>
        have incomplete := into.next.incomplete
        have after : cutAfter serde (some record) segment.piece =
            some (record.extend segment.piece.value) := by
          simp only [cutAfter, if_pos same]
          exact if_neg incomplete.1
        have done : completed serde (some record) segment.piece = [] := by
          simp only [completed, if_pos same]
          exact if_neg incomplete.1
        have fits : Fits serde (some record) segment.piece := by
          simp only [Fits, if_pos same]
          exact Or.inr incomplete
        refine seam ▸ Restores.cons fits after done (ih into.next) ?_
        rw [Event.extend, Event.extend, List.append_assoc]
        rfl
    have split : postedAfter (segment :: rest) =
        segment.between ++ (segment.piece :: postedAfter rest) := by
      rw [postedAfter, List.flatMap_cons, List.append_assoc]
      rfl
    rw [split]
    refine ⟨passes.1 piece.orderly, ?_, ?_, ?_⟩
    · rw [passes.2.1, piece.restored, List.flatMap_cons, List.append_assoc]
    · rw [passes.2.2.1, piece.closed]
    · rw [passes.2.2.2, piece.seams, List.length_cons]

theorem Group.Proper.restores {group : Group} (proper : group.Proper serde) :
    Restores serde none group.posted group.originals group.seams := by
  cases group with
  | whole event =>
    have whole : Whole serde event.value := proper
    have fits : Fits serde none event := Or.inl whole
    exact Restores.cons fits (if_pos whole.1) (if_pos whole.1) Restores.nil rfl
  | cut first rest =>
    have into : CutInto serde first rest := proper
    have fits : Fits serde none first := Or.inr ⟨into.typed, into.incomplete⟩
    exact Restores.cons fits (if_neg into.incomplete.1) (if_neg into.incomplete.1)
      (restores_pieces into) rfl

theorem restores_groups {groups : List Group}
    (proper : forall group, group ∈ groups -> group.Proper serde) :
    Restores serde none (groups.flatMap Group.posted) (groups.flatMap Group.originals)
      (groups.map Group.seams).sum := by
  induction groups with
  | nil => exact Restores.nil
  | cons group _ ih =>
    rw [List.forall_mem_cons] at proper
    exact proper.1.restores.append
      (ih proper.2)

/-! ## The stitcher -/

variable (serde)

/-- The body is rejected because it is not JSON. -/
def SerdeJson.NotJson (body : Bytes) : Prop :=
  Exists fun error => serde.fromSlice body = Except.error error ∧ error.category ≠ .data

/-- The texts of the events are JSON and decode to the telemetry events. -/
def Parses (events : List Event) (decoded : List TelemetryEvent) : Prop :=
  (forall event, event ∈ events -> serde.Json event.text) ∧
    (events.map Event.text).mapM serde.event = some decoded

variable {serde}

theorem Parses.fromSlice {events : List Event} {decoded : List TelemetryEvent}
    (parses : Parses serde events decoded) :
    serde.fromSlice (payload events) = Except.ok decoded := by
  refine serde.elements _ decoded ?_ parses.2
  intro text member
  rcases List.mem_map.mp member with ⟨event, listed, same⟩
  rw [<- same]
  exact parses.1 event listed

/-- A payload that is not JSON is stitched: complete, or held if it ends on a cut
record. -/
theorem parseOrHold_payload {events : List Event} (nonempty : events ≠ [])
    (accepted : forall event, event ∈ events -> event.Enveloped)
    (orderly : Orderly serde none events) (bounded : seamsIn serde none events <= maxSeams)
    (notJson : serde.NotJson (payload events)) (now : Nat) :
    (forall decoded, cutBy serde none events = none ->
        Parses serde (restoredBy serde none events) decoded ->
        parseOrHold serde now (payload events) = (.complete decoded, none)) ∧
      forall record, cutBy serde none events = some record ->
        (payload (restoredBy serde none events ++ [record])).length <= maxFragmentBytes ->
        parseOrHold serde now (payload events) =
          (.pending, some ⟨payload (restoredBy serde none events ++ [record]), now⟩) := by
  rcases notJson with ⟨error, rejected, syntactic⟩
  have dropped := dropSeams_payload nonempty accepted orderly bounded
  constructor
  · intro decoded closed parses
    rw [closed, Option.toList_none, List.append_nil] at dropped
    simp only [parseOrHold, rejected, if_neg syntactic, dropped, Option.isSome_none,
      Bool.false_eq_true, false_and, if_false, parses.fromSlice]
  · intro record cut small
    rw [cut, Option.toList_some] at dropped
    simp only [parseOrHold, rejected, if_neg syntactic, dropped, Option.isSome_some, true_and,
      if_pos small]

/-- Stitching a body of cut records on an empty buffer returns its original events. -/
theorem stitch_restores {groups : List Group} {decoded : List TelemetryEvent}
    (accepted : forall event, event ∈ groups.flatMap Group.posted -> event.Enveloped)
    (proper : forall group, group ∈ groups -> group.Proper serde)
    (bounded : (groups.map Group.seams).sum <= maxSeams)
    (parses : Parses serde (groups.flatMap Group.originals) decoded)
    (notJson : serde.NotJson (payload (groups.flatMap Group.posted))) (now : Nat) :
    FragmentBuffer.stitch serde now (payload (groups.flatMap Group.posted)) ⟨none⟩ =
      (.complete decoded, ⟨none⟩) := by
  have restores := restores_groups proper
  have nonempty : groups.flatMap Group.posted ≠ [] := by
    intro empty
    rcases notJson with ⟨error, rejected, _⟩
    have accepts := serde.elements [] [] (fun text member => by cases member) rfl
    rw [empty] at rejected
    cases accepts.symm.trans rejected
  have stitched := (parseOrHold_payload nonempty accepted restores.orderly
    (by rw [restores.seams]; exact bounded) notJson now).1 decoded restores.closed
    (by rw [restores.restored]; exact parses)
  simp only [FragmentBuffer.stitch, FragmentBuffer.fresh, Option.filter_none, stitched]

end Restoring

/-! ## A line in two pieces -/

/-- A line of the function in two pieces, with the end of the runtime between them. -/
def cutLine : Group :=
  .cut (functionPiece "929" "\"hel") [⟨[runtimeDone "930"], functionPiece "931" "lo\""⟩]

def cutLineEvents : List TelemetryEvent :=
  [⟨1788445792930000000, .platformRuntimeDone "abc123" .success none none⟩,
    ⟨1788445792929000000, .function (.string "hello")⟩]

theorem cutLine_proper : forall group, group ∈ [cutLine] -> group.Proper SerdeJson.plain := by
  intro group member
  rw [List.mem_singleton.mp member]
  refine ⟨rfl, List.cons_ne_nil _ _, ⟨by decide +kernel, by decide +kernel⟩, ?_, ?_, ?_, ?_⟩
  · intro count bound
    rw [Nat.lt_one_iff.mp bound]
    decide +kernel
  · intro segment member
    rw [List.mem_singleton.mp member]
    decide +kernel
  · intro segment member
    rw [List.mem_singleton.mp member]
    rfl
  · intro segment member event listed
    rw [List.mem_singleton.mp member] at listed
    rw [List.mem_singleton.mp listed]
    exact ⟨⟨by decide +kernel, by decide +kernel⟩, by decide⟩

theorem cutLine_enveloped :
    forall event, event ∈ [cutLine].flatMap Group.posted -> event.Enveloped := by
  decide +kernel

theorem cutLine_parses :
    Parses SerdeJson.plain ([cutLine].flatMap Group.originals) cutLineEvents :=
  ⟨by decide +kernel, by rfl⟩

theorem cutLine_notJson :
    SerdeJson.plain.NotJson (payload ([cutLine].flatMap Group.posted)) :=
  ⟨⟨1, 72, .syntactic⟩, plain_rejects (by decide +kernel), by decide⟩

theorem stitch_restores_line :
    FragmentBuffer.stitch SerdeJson.plain 0 (payload ([cutLine].flatMap Group.posted)) ⟨none⟩ =
      (.complete cutLineEvents, ⟨none⟩) :=
  stitch_restores cutLine_enveloped cutLine_proper (by decide) cutLine_parses cutLine_notJson 0

/-! ## An event that names its type first -/

/-- The pieces of cut records stand under envelopes of their types, and other events
as they are written. -/
def Group.PiecesEnveloped : Group -> Prop
  | whole _ => True
  | cut first rest => first.Enveloped ∧ forall segment, segment ∈ rest -> segment.piece.Enveloped

/-- A whole event in front of a cut line that does not begin with its time: the body
is not split, and nothing of it is restored. -/
theorem type_first_discarded :
    ¬ forall (serde : SerdeJson) (groups : List Group) (decoded : List TelemetryEvent) (now : Nat),
      (forall group, group ∈ groups -> group.PiecesEnveloped) ->
      (forall group, group ∈ groups -> group.Proper serde) ->
      (groups.map Group.seams).sum <= maxSeams ->
      Parses serde (groups.flatMap Group.originals) decoded ->
      serde.NotJson (payload (groups.flatMap Group.posted)) ->
      FragmentBuffer.stitch serde now (payload (groups.flatMap Group.posted)) ⟨none⟩ =
        (.complete decoded, ⟨none⟩) := by
  intro always
  let groups := [.whole typeFirst, cutLine]
  let runtimeDoneFirst : TelemetryEvent :=
    ⟨1788445792928000000, .platformRuntimeDone "abc123" .success none none⟩
  have rejected : SerdeJson.plain.fromSlice (payload (groups.flatMap Group.posted)) =
      Except.error ⟨1, 189, .syntactic⟩ := plain_rejects (by decide +kernel)
  have unsplit : splitEvents (payload (groups.flatMap Group.posted)) = none := by decide +kernel
  have stitched := always SerdeJson.plain groups (runtimeDoneFirst :: cutLineEvents) 0 ?_ ?_
    (by decide) ⟨by decide +kernel, by rfl⟩ ⟨_, rejected, by decide⟩
  · simp only [FragmentBuffer.stitch, FragmentBuffer.fresh, Option.filter_none, parseOrHold,
      dropSeams, rejected, unsplit] at stitched
    cases stitched
  · intro group member
    rcases List.mem_pair.mp member with rfl | rfl
    · trivial
    · exact ⟨by decide +kernel, fun segment found => by rw [List.mem_singleton.mp found]; decide +kernel⟩
  · exact List.forall_mem_cons.mpr ⟨⟨by decide +kernel, by decide +kernel⟩, cutLine_proper⟩

end Telemetry
end Bottlecap
