import Bottlecap.Telemetry.Stitch

namespace Bottlecap
namespace Telemetry

open Foundations Extension
open JsonText (arrayOf tailOf)

/-!
# Where a payload is split

An envelope is recognised by its own bytes: what follows them does not matter, and
none of them is a closing brace.  A payload of events with such envelopes is
therefore split into these events, as long as no record value contains `},`
followed by an envelope.
-/

/-- The fields of an envelope of the type, from the time through `"record":`. -/
structure Fields (fields : Bytes) (kind : Option PieceType) : Prop where
  short : eventStart.length + fields.length <= maxEnvelopeBytes
  key : Exists fun start =>
    find recordKey fields = some start ∧ fields.length = start + recordKey.length
  plain : fields.any (fun byte => byte == openBrace || byte == closeBrace) = false
  typed : kind = pieceTypes.find? (fun kind => kind.tail.isSuffixOf fields)

variable {kind : Option PieceType} {value : Bytes}

theorem recordKey_ne_nil : recordKey ≠ [] := by decide

theorem envelope_eq_some_iff {bytes : Bytes} {length : Nat} :
    envelope bytes = some (length, kind) <->
      Exists fun fields => Exists fun rest =>
        bytes = eventStart ++ (fields ++ rest) ∧ Fields fields kind ∧
          length = eventStart.length + fields.length := by
  constructor
  · intro accepted
    rcases Option.bind_eq_some_iff.mp accepted with ⟨window, stripped, accepted⟩
    rcases Option.bind_eq_some_iff.mp accepted with ⟨start, found, accepted⟩
    have opens := stripStart_eq_some_iff.mp stripped
    have bound := find_bound found
    simp only at accepted
    split at accepted
    next => cases accepted
    next noBrace =>
      cases accepted
      have size : (window.take (start + recordKey.length)).length = start + recordKey.length :=
        List.length_take_of_le bound
      refine ⟨window.take (start + recordKey.length),
        window.drop (start + recordKey.length) ++ bytes.drop maxEnvelopeBytes, ?_, ?_, ?_⟩
      · rw [<- List.append_assoc (window.take _), List.take_append_drop, <- List.append_assoc,
          <- opens, List.take_append_drop]
      · refine ⟨?_, ⟨start, ?_, size⟩, Bool.eq_false_iff.mpr noBrace, rfl⟩
        · have whole := congrArg List.length opens
          rw [List.length_take, List.length_append] at whole
          omega
        · rw [<- List.take_append_drop (start + recordKey.length) window] at found
          exact (find_append_iff recordKey_ne_nil (by rw [size])).mp found
      · rw [size]
  · rintro ⟨fields, rest, whole, ⟨short, ⟨start, found, size⟩, plain, typed⟩, same⟩
    have window : bytes.take maxEnvelopeBytes = eventStart ++ (fields ++
        rest.take (maxEnvelopeBytes - eventStart.length - fields.length)) := by
      rw [whole, List.take_append, List.take_append, List.take_of_length_le (by omega),
        List.take_of_length_le (by omega)]
    rw [envelope, window, stripStart_append, Option.bind_some,
      (find_append_iff recordKey_ne_nil (by omega)).mpr found, Option.bind_some]
    simp only [<- size, List.take_left, plain, Bool.false_eq_true, if_false, same, typed]

/-- What follows an envelope does not matter. -/
theorem envelope_append {bytes : Bytes} {length : Nat}
    (accepted : envelope bytes = some (length, kind)) (more : Bytes) :
    envelope (bytes ++ more) = some (length, kind) := by
  rcases envelope_eq_some_iff.mp accepted with ⟨fields, rest, whole, good, same⟩
  refine envelope_eq_some_iff.mpr ⟨fields, rest ++ more, ?_, good, same⟩
  rw [whole, List.append_assoc, List.append_assoc]

/-- No byte of an envelope is a closing brace, so that an envelope in front of one
is an envelope without it. -/
theorem envelope_of_append {bytes more : Bytes} {length : Nat}
    (accepted : envelope (bytes ++ closeBrace :: more) = some (length, kind)) :
    envelope bytes = some (length, kind) := by
  rcases envelope_eq_some_iff.mp accepted with ⟨fields, rest, whole, good, same⟩
  rw [<- List.append_assoc] at whole
  rcases List.append_eq_append_iff.mp whole with ⟨extra, longer, rests⟩ | ⟨extra, shorter, rests⟩
  · cases extra with
    | nil =>
      rw [List.append_nil] at longer
      refine envelope_eq_some_iff.mpr ⟨fields, [], ?_, good, same⟩
      rw [List.append_nil, longer]
    | cons =>
      -- The closing brace would be one of the envelope's bytes.
      have inside : closeBrace ∈ eventStart ++ fields := by
        rw [longer, (List.cons.inj rests).1]
        exact List.mem_append_right bytes List.mem_cons_self
      rcases List.mem_append.mp inside with start | field
      · exact absurd start (by decide)
      · have brace := List.any_eq_false.mp good.plain closeBrace field
        exact absurd (by decide) brace
  · refine envelope_eq_some_iff.mpr ⟨fields, extra, ?_, good, same⟩
    rw [shorter, List.append_assoc]

/-! ## Values without an envelope inside -/

/-- The value does not contain `},` followed by an envelope. -/
def Clean (value : Bytes) : Prop :=
  forall start rest : Bytes, value = start ++ closeBrace :: comma :: rest -> envelope rest = none

/-- Every part of a clean value is clean. -/
theorem Clean.of_part {whole : Bytes} (clean : Clean whole) (part : value <:+: whole) :
    Clean value := by
  rcases part with ⟨before, after, same⟩
  intro start rest split
  cases accepted : envelope rest with
  | none => rfl
  | some =>
    have none := clean (before ++ start) (rest ++ after) (by
      rw [<- same, split]
      simp only [List.append_assoc, List.cons_append])
    rw [envelope_append accepted] at none
    cases none

/-- A match at the first byte of a clean value is impossible, whatever follows
the value after a closing brace. -/
theorem Clean.no_match {byte : UInt8} {more : Bytes} (clean : Clean (byte :: value))
    (closed : more = [] ∨ Exists fun rest : Bytes => more = closeBrace :: rest) :
    (stripStart [closeBrace, comma] (byte :: value ++ more)).filter
      (fun next => (envelope next).isSome) = none := by
  cases stripped : stripStart [closeBrace, comma] (byte :: value ++ more) with
  | none => rfl
  | some next =>
    rw [Option.filter_some, if_neg]
    intro accepted
    rcases Option.isSome_iff_exists.mp accepted with ⟨⟨length, kind⟩, accepted⟩
    have whole := stripStart_eq_some_iff.mp stripped
    rw [List.cons_append] at whole
    rcases List.cons.inj whole with ⟨brace, whole⟩
    cases value with
    | nil =>
      -- The byte after the value is a brace, not a comma.
      rcases closed with empty | ⟨rest, closes⟩
      · rw [empty] at whole
        cases whole
      · rw [closes] at whole
        exact absurd (List.cons.inj whole).1 (by decide)
    | cons _ value =>
      rcases List.cons.inj whole with ⟨separator, tail⟩
      change value ++ more = next at tail
      rw [<- tail] at accepted
      have alone : envelope value = some (length, kind) := by
        rcases closed with empty | ⟨rest, closes⟩
        · rw [empty, List.append_nil] at accepted
          exact accepted
        · rw [closes] at accepted
          exact envelope_of_append accepted
      have none := clean [] value (by rw [brace, separator]; rfl)
      rw [alone] at none
      cases none

theorem Clean.tail {byte : UInt8} (clean : Clean (byte :: value)) : Clean value :=
  clean.of_part (List.suffix_cons byte value).isInfix

theorem splitAtNextEvent_clean (clean : Clean value) :
    splitAtNextEvent value = none := by
  induction value with
  | nil => rfl
  | cons _ _ ih =>
    have first := clean.no_match (Or.inl rfl)
    rw [List.append_nil] at first
    rw [splitAtNextEvent, first, ih clean.tail]
    rfl

/-- The search of `split_at_next_event` decides whether a value is clean. -/
theorem clean_iff : Clean value <-> splitAtNextEvent value = none := by
  refine ⟨splitAtNextEvent_clean, ?_⟩
  intro nothing start rest split
  induction start generalizing value with
  | nil =>
    have first := stripStart_append [closeBrace, comma] rest
    rw [List.cons_append, List.cons_append, List.nil_append] at first
    rw [split, List.nil_append, splitAtNextEvent, first, Option.filter_some] at nothing
    by_cases accepted : (envelope rest).isSome = true
    · rw [if_pos accepted] at nothing
      cases nothing
    · exact Option.not_isSome_iff_eq_none.mp accepted
  | cons _ _ ih =>
    rw [split, List.cons_append, splitAtNextEvent] at nothing
    split at nothing
    next => cases nothing
    next => exact ih (Option.map_eq_none_iff.mp nothing) rfl

instance (value : Bytes) : Decidable (Clean value) := decidable_of_iff' _ clean_iff

theorem splitAtNextEvent_append {next : Bytes} (clean : Clean value)
    (accepted : (envelope next).isSome = true) :
    splitAtNextEvent (value ++ closeBrace :: comma :: next) = some (value, next) := by
  induction value with
  | nil =>
    have first := stripStart_append [closeBrace, comma] next
    rw [List.cons_append, List.cons_append, List.nil_append] at first
    rw [List.nil_append, splitAtNextEvent, first, Option.filter_some, if_pos accepted]
  | cons _ _ ih =>
    have first := clean.no_match (Or.inr ⟨comma :: next, rfl⟩)
    rw [List.cons_append] at first ⊢
    rw [splitAtNextEvent, first, ih clean.tail]
    rfl

/-! ## Payloads -/

/-- The event stands under an envelope of its type. -/
def Event.Enveloped (event : Event) : Prop :=
  Telemetry.envelope event.envelope = some (event.envelope.length, event.kind)

instance (event : Event) : Decidable event.Enveloped := inferInstanceAs (Decidable (_ = _))

/-- An event as it stands in a payload: under an envelope of its type, with a
value that contains no other event. -/
structure Event.Posted (event : Event) : Prop where
  accepted : event.Enveloped
  clean : Clean event.value

def Event.text (event : Event) : Bytes := event.envelope ++ event.value ++ [closeBrace]

/-- The payload of some events. -/
def payload (events : List Event) : Bytes := arrayOf (events.map Event.text)

/-- The bytes of a payload between the opening bracket and the framing. -/
def inner : List Event -> Bytes
  | [] => []
  | [event] => event.envelope ++ event.value
  | event :: next :: events =>
    event.envelope ++ (event.value ++ closeBrace :: comma :: inner (next :: events))

theorem text_tailOf (event : Event) (events : List Event) :
    event.text ++ tailOf (events.map Event.text) = inner (event :: events) ++ framing := by
  induction events generalizing event with
  | nil =>
    simp only [Event.text, inner, tailOf, List.map_nil, List.flatMap_nil, List.nil_append,
      List.append_assoc, List.cons_append, framing]
  | cons next _ ih =>
    have rest := ih next
    rw [tailOf] at rest ⊢
    rw [List.map_cons, List.flatMap_cons, List.append_assoc, List.cons_append, rest, inner,
      Event.text]
    simp only [List.append_assoc, List.cons_append, List.nil_append]

theorem payload_cons (event : Event) (events : List Event) :
    payload (event :: events) = openBracket :: (inner (event :: events) ++ framing) := by
  rw [payload, List.map_cons, arrayOf, text_tailOf]

/-- The loop finds the events of a payload. -/
theorem splitRest_inner (event : Event) (events : List Event) {turns : Nat}
    (enough : events.length < turns) (posted : forall other, other ∈ event :: events ->
      other.Posted) :
    splitRest turns (inner (event :: events)) = some (event :: events) := by
  induction events generalizing event turns with
  | nil =>
    rcases Nat.exists_eq_add_one.mpr (Nat.zero_lt_of_lt enough) with ⟨turns, rfl⟩
    have good := posted event List.mem_cons_self
    simp only [splitRest, inner, envelope_append good.accepted, List.drop_left,
      List.take_left, splitAtNextEvent_clean good.clean]
  | cons next events ih =>
    rcases Nat.exists_eq_add_one.mpr (Nat.zero_lt_of_lt enough) with ⟨turns, rfl⟩
    rw [List.length_cons] at enough
    have good := posted event List.mem_cons_self
    have rest := ih next (by omega : events.length < turns)
      (fun other member => posted other (List.mem_cons_of_mem event member))
    have nextAccepted : (envelope (inner (next :: events))).isSome = true := by
      have accepted := (posted next (List.mem_cons_of_mem event List.mem_cons_self)).accepted
      cases events <;> rw [inner, envelope_append accepted, Option.isSome_some]
    simp only [splitRest, inner, envelope_append good.accepted, List.drop_left,
      List.take_left, splitAtNextEvent_append good.clean nextAccepted, rest, Option.map_some]

theorem length_le_inner (event : Event) (events : List Event) :
    events.length <= (inner (event :: events)).length := by
  induction events generalizing event with
  | nil => exact Nat.zero_le _
  | cons next _ ih =>
    have bound := ih next
    rw [inner]
    simp only [List.length_append, List.length_cons] at bound ⊢
    omega

theorem splitEvents_payload {events : List Event} (nonempty : events ≠ [])
    (posted : forall event, event ∈ events -> event.Posted) :
    splitEvents (payload events) = some events := by
  cases events with
  | nil => exact absurd rfl nonempty
  | cons event events =>
    have opened := stripStart_append [openBracket] (inner (event :: events) ++ framing)
    rw [List.cons_append, List.nil_append] at opened
    rw [splitEvents, payload_cons, opened, Option.bind_some, stripEnd_append]
    exact splitRest_inner event events (Nat.lt_succ_of_le (length_le_inner event events)) posted

/-! ## Any body that is split -/

theorem eq_append_of_splitAtNextEvent {bytes next : Bytes}
    (split : splitAtNextEvent bytes = some (value, next)) :
    bytes = value ++ closeBrace :: comma :: next := by
  fun_induction splitAtNextEvent generalizing value with
  | case1 => cases split
  | case2 _ _ _ here =>
    cases split
    have whole := stripStart_eq_some_iff.mp (Option.filter_eq_some_iff.mp here).1
    exact whole
  | case3 byte _ _ ih =>
    rcases Option.map_eq_some_iff.mp split with ⟨⟨later, _⟩, found, same⟩
    cases same
    exact congrArg (byte :: ·) (ih found)

/-- The next event is shorter than what it is split from. -/
theorem length_of_splitAtNextEvent {rest next : Bytes} {length : Nat}
    (split : splitAtNextEvent (rest.drop length) = some (value, next)) :
    next.length < rest.length := by
  have whole := congrArg List.length (eq_append_of_splitAtNextEvent split)
  simp only [List.length_drop, List.length_append, List.length_cons] at whole
  omega

/-- More turns than there are bytes make no difference: the loop has ended. -/
theorem splitRest_ends {rest : Bytes} {turns more : Nat} (enough : rest.length < turns)
    (others : rest.length < more) : splitRest turns rest = splitRest more rest := by
  induction turns generalizing rest more with
  | zero => exact absurd enough (Nat.not_lt_zero _)
  | succ turns ih =>
    rcases more with _ | more
    · exact absurd others (Nat.not_lt_zero _)
    rw [splitRest, splitRest]
    cases envelope rest with
    | none => rfl
    | some found =>
      rcases found with ⟨length, kind⟩
      dsimp only
      cases split : splitAtNextEvent (rest.drop length) with
      | none => rfl
      | some parts =>
        have shorter := length_of_splitAtNextEvent split
        dsimp only
        rw [ih (by omega : parts.2.length < turns) (by omega : parts.2.length < more)]

/-- The events are all there is between the opening bracket and the framing. -/
theorem inner_of_splitRest {turns : Nat} {rest : Bytes} {events : List Event}
    (split : splitRest turns rest = some events) : events ≠ [] ∧ inner events = rest := by
  fun_induction splitRest generalizing events with
  | case1 | case2 => cases split
  | case3 _ rest length =>
    cases split
    exact ⟨List.cons_ne_nil _ _, List.take_append_drop length rest⟩
  | case4 _ rest length _ _ value next found ih =>
    rcases Option.map_eq_some_iff.mp split with ⟨later, splitLater, rfl⟩
    rcases ih splitLater with ⟨some_event, whole⟩
    refine ⟨List.cons_ne_nil _ _, ?_⟩
    cases later with
    | nil => exact absurd rfl some_event
    | cons =>
      rw [inner, whole, <- eq_append_of_splitAtNextEvent found]
      exact List.take_append_drop length rest

end Telemetry
end Bottlecap
