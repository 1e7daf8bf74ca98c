import Bottlecap.Telemetry.Envelopes

namespace Bottlecap
namespace Telemetry

open Foundations Extension
open JsonText (arrayOf tailOf)

/-!
# What the seams of a payload are

The purpose of `drop_seams`, on events rather than bytes: a record value that is not
JSON is cut, the next event of its type extends it, and events of other types are
whole and stand ahead of it.  For payloads in which every cut record is on its way to
a JSON value, the code's loop over the bytes does exactly this.
-/

/-! ## The errors of a cut value -/

theorem filter_zipIdx_length (bytes : Bytes) :
    (bytes.zipIdx.filter (fun entry => entry.1 == newline)).length = bytes.count newline := by
  rw [<- List.countP_eq_length_filter, List.count]
  have same : bytes = bytes.zipIdx.map Prod.fst := (List.zipIdx_map_fst 0 bytes).symm
  conv_rhs => rw [same, List.countP_map]
  rfl

/-- The line and column of a byte point at it. -/
theorem offset_position {bytes : Bytes} {index : Nat} {error : JsonError}
    (within : index <= bytes.length)
    (points : (error.line, error.column) = position bytes index) : offset bytes error = index := by
  have size : (bytes.take index).length = index := List.length_take_of_le within
  rcases Prod.mk.inj points with ⟨line, column⟩
  by_cases broken : newline ∈ (bytes.take index).reverse
  · -- The last line break before the byte starts its line.
    rcases List.eq_append_cons_of_mem broken with ⟨last, earlier, split, none⟩
    have start : bytes.take index = earlier.reverse ++ newline :: last.reverse := by
      rw [<- List.reverse_reverse (bytes.take index), split]
      simp only [List.reverse_append, List.reverse_cons, List.append_assoc, List.cons_append,
        List.nil_append]
    have whole : bytes = earlier.reverse ++ newline :: (last.reverse ++ bytes.drop index) := by
      conv_lhs => rw [<- List.take_append_drop index bytes, start]
      simp only [List.append_assoc, List.cons_append]
    have lines : error.line = earlier.reverse.count newline + 2 := by
      rw [line, start, List.count_append, List.count_cons_self,
        List.count_eq_zero_of_not_mem (fun member => none (List.mem_reverse.mp member))]
    have columns : error.column = last.length + 1 := by
      rw [column, split, List.takeWhile_append_of_pos, List.takeWhile_cons_of_neg]
      · rw [List.append_nil]
      · simp only [bne_self_eq_false, Bool.false_eq_true, not_false_eq_true]
      · intro byte member
        exact bne_iff_ne.mpr (fun same => none (same ▸ member))
    have entry : (bytes.zipIdx.filter (fun entry => entry.1 == newline))[
        earlier.reverse.count newline]? = some (newline, earlier.reverse.length) := by
      conv_lhs => rw [whole]
      rw [List.zipIdx_append, List.filter_append, <- filter_zipIdx_length,
        List.getElem?_append_right (Nat.le_refl _), Nat.sub_self, List.zipIdx_cons,
        List.filter_cons_of_pos (by rfl), List.getElem?_cons_zero, Nat.zero_add]
    simp only [offset, lines, entry]
    rw [start] at size
    simp only [List.length_append, List.length_cons, List.length_reverse] at size ⊢
    omega
  · have lines : error.line = 1 := by
      rw [line, List.count_eq_zero_of_not_mem (fun member => broken (List.mem_reverse.mpr member))]
    have columns : error.column = index + 1 := by
      have none : forall byte, byte ∈ (bytes.take index).reverse -> (byte != newline) = true :=
        fun byte member => bne_iff_ne.mpr (fun same => broken (same ▸ member))
      rw [column, <- List.append_nil (bytes.take index).reverse, List.takeWhile_append_of_pos none,
        List.takeWhile_nil, List.append_nil, List.length_reverse, size]
    simp only [offset, lines, columns, Nat.zero_add, Nat.add_sub_cancel]

variable (serde : SerdeJson)

/-- JSON text, which is what `serde_json` accepts. -/
def SerdeJson.Json (bytes : Bytes) : Prop := serde.ignoredAny bytes = none

instance (bytes : Bytes) : Decidable (serde.Json bytes) := inferInstanceAs (Decidable (_ = _))

/-- A record value on its own. -/
def Whole (value : Bytes) : Prop := serde.Json value ∧ Clean value

/-- The bytes of a record value that breaks off. -/
def Incomplete (value : Bytes) : Prop :=
  ¬ serde.Json value ∧ Exists fun rest : Bytes => rest ≠ [] ∧ Whole serde (value ++ rest)

variable {serde}

theorem Incomplete.clean {value : Bytes} (incomplete : Incomplete serde value) : Clean value := by
  rcases incomplete.2 with ⟨rest, _, whole⟩
  exact whole.2.of_part (List.prefix_append value rest).isInfix

theorem parseRecord_whole {value : Bytes} (json : serde.Json value) :
    parseRecord serde value = .whole := by
  rw [parseRecord, json]

theorem parseRecord_incomplete {value : Bytes} (incomplete : Incomplete serde value) :
    parseRecord serde value = .cut := by
  rcases incomplete with ⟨notJson, rest, nonempty, whole, _⟩
  cases parsed : serde.ignoredAny value with
  | none => exact absurd parsed notJson
  | some error =>
    rw [parseRecord, parsed]
    refine if_pos ?_
    rcases serde.cutShort value rest error nonempty whole parsed with eof | last
    · exact Or.inl eof
    · refine Or.inr ?_
      rw [offset_position (Nat.sub_le _ _) last]
      omega

/-! ## Restoring records -/

variable (serde)

/-- The record with the bytes of one more piece. -/
def Event.extend (record : Event) (piece : Bytes) : Event :=
  { record with value := record.value ++ piece }

/-- The record that is cut after an event, given the one that was cut before it. -/
def cutAfter (cut : Option Event) (event : Event) : Option Event :=
  match cut with
  | none => if serde.Json event.value then none else some event
  | some record =>
    if event.kind = record.kind then
      if serde.Json (record.value ++ event.value) then none
      else some (record.extend event.value)
    else some record

/-- The event that an event makes whole: itself, or the record it completes. -/
def completed (cut : Option Event) (event : Event) : List Event :=
  match cut with
  | none => if serde.Json event.value then [event] else []
  | some record =>
    if event.kind = record.kind then
      if serde.Json (record.value ++ event.value) then [record.extend event.value] else []
    else [event]

/-- The number of seams in front of an event. -/
def seamBefore (cut : Option Event) (event : Event) : Nat :=
  match cut with
  | none => 0
  | some record => if event.kind = record.kind then 1 else 0

/-- The event is whole, or a piece on the way to a whole record. -/
def Fits (cut : Option Event) (event : Event) : Prop :=
  match cut with
  | none => Whole serde event.value ∨ (event.kind.isSome = true ∧ Incomplete serde event.value)
  | some record =>
    if event.kind = record.kind then
      Whole serde (record.value ++ event.value) ∨ Incomplete serde (record.value ++ event.value)
    else Whole serde event.value

def cutBy (cut : Option Event) (events : List Event) : Option Event :=
  events.foldl (cutAfter serde) cut

/-- The whole events of a payload, in the order in which they are complete. -/
def restoredBy : Option Event -> List Event -> List Event
  | _, [] => []
  | cut, event :: events => completed serde cut event ++ restoredBy (cutAfter serde cut event) events

def seamsIn : Option Event -> List Event -> Nat
  | _, [] => 0
  | cut, event :: events => seamBefore cut event + seamsIn (cutAfter serde cut event) events

/-- Every event of the list fits. -/
def Orderly : Option Event -> List Event -> Prop
  | _, [] => True
  | cut, event :: events => Fits serde cut event ∧ Orderly (cutAfter serde cut event) events

variable {serde}

variable {cut : Option Event} {events done : List Event} {seams : Seams} {count : Nat}

theorem cutBy_append (cut : Option Event) (first second : List Event) :
    cutBy serde cut (first ++ second) = cutBy serde (cutBy serde cut first) second :=
  List.foldl_append

theorem restoredBy_append (cut : Option Event) (first second : List Event) :
    restoredBy serde cut (first ++ second) =
      restoredBy serde cut first ++ restoredBy serde (cutBy serde cut first) second := by
  induction first generalizing cut with
  | nil => rfl
  | cons _ _ ih =>
    rw [List.cons_append, restoredBy, ih, restoredBy, List.append_assoc]
    rfl

theorem seamsIn_append (cut : Option Event) (first second : List Event) :
    seamsIn serde cut (first ++ second) =
      seamsIn serde cut first + seamsIn serde (cutBy serde cut first) second := by
  induction first generalizing cut with
  | nil => exact (Nat.zero_add _).symm
  | cons _ _ ih =>
    rw [List.cons_append, seamsIn, ih, seamsIn, Nat.add_assoc]
    rfl

theorem orderly_append {first second : List Event} :
    Orderly serde cut (first ++ second) <->
      Orderly serde cut first ∧ Orderly serde (cutBy serde cut first) second := by
  induction first generalizing cut with
  | nil => exact (iff_of_eq (true_and _)).symm
  | cons _ _ ih =>
    rw [List.cons_append, Orderly, ih, Orderly, and_assoc]
    rfl

/-- The three outcomes for an event that fits. -/
theorem Fits.cases {event : Event} (fits : Fits serde cut event) :
    (Whole serde event.value ∧ (forall record, cut = some record -> event.kind ≠ record.kind) ∧
        cutAfter serde cut event = cut ∧ completed serde cut event = [event] ∧
        seamBefore cut event = 0) ∨
      (cut = none ∧ event.kind.isSome = true ∧ Incomplete serde event.value ∧
        cutAfter serde cut event = some event ∧ completed serde cut event = [] ∧
        seamBefore cut event = 0) ∨
      Exists fun record => cut = some record ∧ event.kind = record.kind ∧
        seamBefore cut event = 1 ∧
        ((Whole serde (record.value ++ event.value) ∧ cutAfter serde cut event = none ∧
            completed serde cut event = [record.extend event.value]) ∨
          (Incomplete serde (record.value ++ event.value) ∧
            cutAfter serde cut event = some (record.extend event.value) ∧
            completed serde cut event = [])) := by
  cases cut with
  | none =>
    rcases fits with whole | ⟨typed, incomplete⟩
    · exact Or.inl ⟨whole, (fun record impossible => by cases impossible), if_pos whole.1,
        if_pos whole.1, rfl⟩
    · exact Or.inr (Or.inl ⟨rfl, typed, incomplete, if_neg incomplete.1, if_neg incomplete.1, rfl⟩)
  | some record =>
    by_cases same : event.kind = record.kind
    · simp only [Fits, if_pos same] at fits
      refine Or.inr (Or.inr ⟨record, rfl, same, if_pos same, ?_⟩)
      simp only [cutAfter, completed, if_pos same]
      rcases fits with whole | incomplete
      · exact Or.inl ⟨whole, if_pos whole.1, if_pos whole.1⟩
      · exact Or.inr ⟨incomplete, if_neg incomplete.1, if_neg incomplete.1⟩
    · simp only [Fits, if_neg same] at fits
      refine Or.inl ⟨fits, ?_, if_neg same, if_neg same, if_neg same⟩
      intro other known
      cases known
      exact same

/-- The bytes of an event that fits contain no envelope. -/
theorem Fits.clean {event : Event} (fits : Fits serde cut event) :
    Clean event.value := by
  rcases fits.cases with ⟨whole, _⟩ | ⟨_, _, incomplete, _⟩ | ⟨record, _, _, _, joined⟩
  · exact whole.2
  · exact incomplete.clean
  · have part : event.value <:+: record.value ++ event.value :=
      (List.suffix_append record.value event.value).isInfix
    rcases joined with ⟨whole, _⟩ | ⟨incomplete, _⟩
    · exact whole.2.of_part part
    · exact incomplete.clean.of_part part

theorem Orderly.clean (orderly : Orderly serde cut events) :
    forall event, event ∈ events -> Clean event.value := by
  induction events generalizing cut with
  | nil =>
    intro event member
    cases member
  | cons _ _ ih =>
    exact List.forall_mem_cons.mpr ⟨orderly.1.clean, ih orderly.2⟩

/-- Something is whole or cut after at least one event. -/
theorem restored_ne_nil (orderly : Orderly serde cut events)
    (some : cut.isSome = true ∨ events ≠ []) :
    restoredBy serde cut events ++ (cutBy serde cut events).toList ≠ [] := by
  induction events generalizing cut with
  | nil =>
    rcases some with known | nonempty
    · rcases Option.isSome_iff_exists.mp known with ⟨record, same⟩
      rw [same]
      exact List.cons_ne_nil _ _
    · exact absurd rfl nonempty
  | cons _ _ ih =>
    rw [restoredBy, List.append_assoc]
    rcases orderly.1.cases with ⟨_, _, _, done, _⟩ | ⟨_, _, _, after, _⟩ | ⟨record, _, _, _, joined⟩
    · rw [done]
      exact List.cons_ne_nil _ _
    · exact List.append_ne_nil_of_right_ne_nil _ (ih orderly.2 (Or.inl (by rw [after]; rfl)))
    · rcases joined with ⟨_, _, done⟩ | ⟨_, after, _⟩
      · rw [done]
        exact List.cons_ne_nil _ _
      · exact List.append_ne_nil_of_right_ne_nil _ (ih orderly.2 (Or.inl (by rw [after]; rfl)))

/-! ## The loop over the seams -/

/-- The payload of some events before its closing bracket. -/
def opened : List Event -> Bytes
  | [] => []
  | event :: events =>
    openBracket :: (event.text ++ (events.map Event.text).flatMap (fun text => comma :: text))

theorem opened_append_closeBracket (nonempty : events ≠ []) :
    opened events ++ [closeBracket] = payload events := by
  cases events with
  | nil => exact absurd rfl nonempty
  | cons =>
    rw [opened, payload, List.map_cons, arrayOf, tailOf, List.cons_append, List.append_assoc]

theorem pushEvent_opened (events : List Event) (event : Event) :
    pushEvent (opened events) event.envelope event.value = opened (events ++ [event]) := by
  cases events with
  | nil => simp only [pushEvent, opened, Event.text, List.isEmpty_nil, if_true, List.nil_append,
      List.map_nil, List.flatMap_nil, List.append_nil, List.cons_append, List.append_assoc]
  | cons =>
    simp only [pushEvent, opened, Event.text, List.isEmpty_cons, Bool.false_eq_true, if_false,
      List.cons_append, List.map_append, List.map_cons, List.map_nil, List.flatMap_append,
      List.flatMap_cons, List.flatMap_nil, List.append_assoc, List.nil_append]

theorem foldl_pushEvent (first events : List Event) :
    events.foldl (fun payload event => pushEvent payload event.envelope event.value)
      (opened first) = opened (first ++ events) := by
  induction events generalizing first with
  | nil => rw [List.foldl_nil, List.append_nil]
  | cons event events ih =>
    rw [List.foldl_cons, pushEvent_opened, ih, List.append_assoc, List.singleton_append]

/-- A body that is split is rebuilt from its events byte for byte.  The loop that splits it
takes no more turns than the body has bytes. -/
theorem split_body_rebuilt {body : Bytes} (split : splitEvents body = some events) :
    (Exists fun rest : Bytes => body = openBracket :: (rest ++ framing) ∧
      forall turns, body.length <= turns -> splitRest turns rest = some events) ∧
      events.foldl (fun payload event => pushEvent payload event.envelope event.value) [] ++
        [closeBracket] = body := by
  rcases Option.bind_eq_some_iff.mp split with ⟨unopened, strips, split⟩
  rcases Option.bind_eq_some_iff.mp split with ⟨rest, stripsEnd, split⟩
  have whole : body = openBracket :: (rest ++ framing) := by
    rw [stripStart_eq_some_iff.mp strips, eq_append_of_stripEnd stripsEnd]
    rfl
  refine ⟨⟨rest, whole, fun turns enough => ?_⟩, ?_⟩
  · have longer : rest.length < turns := by
      rw [whole, List.length_cons, List.length_append] at enough
      omega
    rw [splitRest_ends longer (Nat.lt_succ_self _), split]
  · rcases inner_of_splitRest split with ⟨nonempty, same⟩
    have rebuilt := foldl_pushEvent [] events
    rw [List.nil_append] at rebuilt
    refine (congrArg (· ++ [closeBracket]) rebuilt).trans ?_
    rw [opened_append_closeBracket nonempty]
    cases events with
    | nil => exact absurd rfl nonempty
    | cons => rw [payload_cons, same, whole]

/-- A value that begins like an event stays one value. -/
theorem split_body_rebuilt_nested :
    let envelope := eventStart ++ ascii "t\",\"record\":"
    let value := ascii "\"" ++ [closeBrace, comma] ++ eventStart ++ ascii "\""
    splitEvents (payload [⟨envelope, value, none⟩]) = some [⟨envelope, value, none⟩] ∧
      pushEvent [] envelope value ++ [closeBracket] = payload [⟨envelope, value, none⟩] := by
  intro envelope value
  have split : splitEvents (payload [⟨envelope, value, none⟩]) = some [⟨envelope, value, none⟩] := by
    decide +kernel
  exact ⟨split, (split_body_rebuilt split).2⟩

/-- The variables of the loop when the events `done` are whole and `cut` is cut. -/
structure Seams.Holds (seams : Seams) (done : List Event) (cut : Option Event) (count : Nat) :
    Prop where
  joined : seams.joined = opened done
  cut : seams.cut.map (fun pair => { pair.1 with value := pair.2 }) = cut
  count : seams.seamCount = count

/-- The record that the loop has cut, when one is. -/
theorem Seams.Holds.record {record : Event} (holds : seams.Holds done (some record) count) :
    Exists fun first => seams.cut = some (first, record.value) ∧
      first.envelope = record.envelope ∧ first.kind = record.kind := by
  rcases Option.map_eq_some_iff.mp holds.cut with ⟨⟨first, value⟩, known, same⟩
  cases same
  exact ⟨first, known, rfl, rfl⟩

theorem Seams.Holds.no_record (holds : seams.Holds done none count) : seams.cut = none :=
  Option.map_eq_none_iff.mp holds.cut

theorem step_holds {event : Event} (holds : seams.Holds done cut count)
    (fits : Fits serde cut event) (bounded : count + seamBefore cut event <= maxSeams) :
    Exists fun next => seams.step serde event = some next ∧
      next.Holds (done ++ completed serde cut event) (cutAfter serde cut event)
        (count + seamBefore cut event) := by
  rcases fits.cases with ⟨whole, other, after, done', none'⟩ |
      ⟨noCut, typed, incomplete, after, done', none'⟩ | ⟨record, known, same, seam, joined⟩
  · rw [after, done', none']
    refine ⟨{ seams with joined := pushEvent seams.joined event.envelope event.value }, ?_,
      ?_, holds.cut, holds.count⟩
    · cases cut with
      | none => simp only [Seams.step, holds.no_record, parseRecord_whole whole.1]
      | some record =>
        rcases holds.record with ⟨first, stored, _, kind⟩
        have differs : event.kind ≠ first.kind := by
          rw [kind]
          exact other record rfl
        simp only [Seams.step, stored, if_pos differs, parseRecord_whole whole.1]
    · exact (congrArg (fun payload => pushEvent payload event.envelope event.value)
        holds.joined).trans (pushEvent_opened done event)
  · rw [after, done', none', List.append_nil]
    rw [noCut] at holds
    refine ⟨{ seams with cut := some (event, event.value) }, ?_, holds.joined, rfl, holds.count⟩
    simp only [Seams.step, holds.no_record, parseRecord_incomplete incomplete, if_pos typed]
  · rw [known] at holds
    rcases holds.record with ⟨first, stored, header, kind⟩
    have sameKind : ¬ event.kind ≠ first.kind := by
      rw [kind]
      exact not_not_intro same
    have room : seams.seamCount ≠ maxSeams := by
      rw [holds.count]
      omega
    rw [seam]
    rcases joined with ⟨whole, after, done'⟩ | ⟨incomplete, after, done'⟩
    · rw [after, done']
      refine ⟨⟨pushEvent seams.joined first.envelope (record.value ++ event.value), none,
        seams.seamCount + 1⟩, ?_, ?_, rfl, congrArg (· + 1) holds.count⟩
      · simp only [Seams.step, stored, if_neg sameKind, if_neg room, parseRecord_whole whole.1]
      · have pushed := pushEvent_opened done (record.extend event.value)
        rw [<- holds.joined] at pushed
        rw [<- pushed, header]
        rfl
    · rw [after, done', List.append_nil]
      refine ⟨⟨seams.joined, some (first, record.value ++ event.value), seams.seamCount + 1⟩, ?_,
        holds.joined, ?_, congrArg (· + 1) holds.count⟩
      · simp only [Seams.step, stored, if_neg sameKind, if_neg room,
          parseRecord_incomplete incomplete]
      · simp only [Option.map_some, Event.extend, header, kind]

theorem foldlM_holds (holds : seams.Holds done cut count) (orderly : Orderly serde cut events)
    (bounded : count + seamsIn serde cut events <= maxSeams) :
    Exists fun final => events.foldlM (Seams.step serde) seams = some final ∧
      final.Holds (done ++ restoredBy serde cut events) (cutBy serde cut events)
        (count + seamsIn serde cut events) := by
  induction events generalizing seams done cut count with
  | nil =>
    refine ⟨seams, rfl, ?_⟩
    rw [restoredBy, List.append_nil]
    exact holds
  | cons _ _ ih =>
    rw [seamsIn, <- Nat.add_assoc] at bounded
    rcases step_holds holds orderly.1 (by omega) with ⟨next, step, nextHolds⟩
    rcases ih nextHolds orderly.2 bounded with ⟨final, rest, finalHolds⟩
    refine ⟨final, ?_, ?_⟩
    · rw [List.foldlM_cons, step]
      exact rest
    · rw [restoredBy, <- List.append_assoc, seamsIn, <- Nat.add_assoc]
      exact finalHolds

theorem Seams.Holds.body (holds : seams.Holds done cut count) (nonempty : done ++ cut.toList ≠ []) :
    seams.body = payload (done ++ cut.toList) := by
  rw [<- opened_append_closeBracket nonempty]
  cases cut with
  | none =>
    simp only [Seams.body, holds.no_record, holds.joined, Option.toList_none, List.append_nil]
  | some =>
    rcases holds.record with ⟨first, stored, header, _⟩
    rw [Option.toList_some, <- pushEvent_opened]
    simp only [Seams.body, stored, holds.joined, header]

/-- `drop_seams` restores the records of a payload. -/
theorem dropSeams_payload (nonempty : events ≠ [])
    (accepted : forall event, event ∈ events -> event.Enveloped)
    (orderly : Orderly serde none events) (bounded : seamsIn serde none events <= maxSeams) :
    dropSeams serde (payload events) =
      (payload (restoredBy serde none events ++ (cutBy serde none events).toList),
        (cutBy serde none events).isSome) := by
  have split := splitEvents_payload nonempty
    (fun event member => ⟨accepted event member, orderly.clean event member⟩)
  have start : Seams.Holds ⟨[], none, 0⟩ [] none 0 := ⟨rfl, rfl, rfl⟩
  rcases foldlM_holds start orderly (by omega) with ⟨final, loop, holds⟩
  rw [List.nil_append] at holds
  have same : final.cut.isSome = (cutBy serde none events).isSome := by
    rw [<- holds.cut, Option.isSome_map]
  simp only [dropSeams, split, Option.bind_some, loop,
    holds.body (restored_ne_nil orderly (Or.inr nonempty)), same]

end Telemetry
end Bottlecap
