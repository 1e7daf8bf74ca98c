import Bottlecap.Foundations.Varint

namespace Bottlecap
namespace DataStreams

open Foundations

/-!
# Inbound pathway contexts

`traces/data_streams/context.rs` reads a pathway context from bytes: a hash of
eight bytes and two zigzag varints, the start times of the pathway and of the edge
in milliseconds.

The loop of `decode_uvarint` shifts each group into a `u64`.  It stops after ten
groups, and `checked_shl` only checks the amount of the shift, so of the tenth
group all bits but the lowest fall off.  What the loop computes is the value of the
varint modulo `2 ^ 64`; a context is read as it was meant unless that differs.
-/

/-- `u64::checked_shl`: the amount of the shift is checked, the bits are not. -/
def checkedShl (value : UInt64) (shift : Nat) : Option UInt64 :=
  if shift < 64 then some (value <<< UInt64.ofNat shift) else none

/-- The loop of `decode_uvarint` with its two variables. -/
def decodeUvarintFrom (result : UInt64) (shift : Nat) :
    List UInt8 -> Option (UInt64 × List UInt8)
  | [] => none
  | byte :: rest =>
    if 64 <= shift then none
    else
      match checkedShl (byte &&& 0x7f).toUInt64 shift with
      | none => none
      | some payload =>
        if byte &&& 0x80 = 0 then some (result ||| payload, rest)
        else decodeUvarintFrom (result ||| payload) (shift + 7) rest

def decodeUvarint (bytes : List UInt8) : Option (UInt64 × List UInt8) :=
  decodeUvarintFrom 0 0 bytes

/-- `((raw >> 1) as i64) ^ -((raw & 1) as i64)` -/
def zigzagDecode (raw : UInt64) : Int64 :=
  (raw >>> 1).toInt64 ^^^ -(raw &&& 1).toInt64

def decodeZigzagVarint (bytes : List UInt8) : Option (Int64 × List UInt8) :=
  (decodeUvarint bytes).map (fun read => (zigzagDecode read.1, read.2))

def msToNsFactor : Nat := 1000000

/-- Negative times are rejected, and those whose nanoseconds do not fit. -/
def msToNs (ms : Int64) : Option UInt64 :=
  if ms.toInt < 0 then none
  else if ms.toInt.toNat * msToNsFactor < 2 ^ 64 then
    some (UInt64.ofNat (ms.toInt.toNat * msToNsFactor))
  else none

structure DsmContext where
  hash : List UInt8
  pathwayStartNs : UInt64
  edgeStartNs : UInt64
  hash_length : hash.length = 8
  deriving DecidableEq

/-- `DsmContext::from_bytes` -/
def fromBytes (bytes : List UInt8) : Option DsmContext :=
  if short : bytes.length < 8 then none
  else do
    let pathwayStart <- decodeZigzagVarint (bytes.drop 8)
    let edgeStart <- decodeZigzagVarint pathwayStart.2
    let pathwayStartNs <- msToNs pathwayStart.1
    let edgeStartNs <- msToNs edgeStart.1
    return {
      hash := bytes.take 8
      pathwayStartNs := pathwayStartNs
      edgeStartNs := edgeStartNs
      hash_length := List.length_take_of_le (Nat.le_of_not_lt short) }

/-! ## The reading loop -/

theorem toNat_payload (byte : UInt8) : (byte &&& 0x7f).toUInt64.toNat = byte.toNat % 128 := by
  exact Nat.and_two_pow_sub_one_eq_mod byte.toNat 7

/-- The high bit says whether more groups follow. -/
theorem highBit_eq_zero_iff (byte : UInt8) : byte &&& 0x80 = 0 <-> byte.toNat < 128 := by
  have bits : forall number : Nat, number < 256 -> (number &&& 128 = 0 <-> number < 128) := by
    decide +kernel
  rw [<- UInt8.toNat_inj]
  exact bits byte.toNat byte.toNat_lt

/-- Shifting in one more group adds it to the lower ones, modulo `2 ^ 64`. -/
theorem toNat_or_shifted {result : UInt64} (payload : UInt64) {shift : Nat} (low : result.toNat < 2 ^ shift)
    (inside : shift < 64) :
    (result ||| payload <<< UInt64.ofNat shift).toNat =
      (result.toNat + 2 ^ shift * payload.toNat) % 2 ^ 64 := by
  have amount : (UInt64.ofNat shift).toNat % 64 = shift := by
    rw [UInt64.toNat_ofNat', Nat.mod_eq_of_lt (by omega : shift < 2 ^ 64), Nat.mod_eq_of_lt inside]
  have width : 2 ^ 64 = 2 ^ shift * 2 ^ (64 - shift) := by
    rw [<- Nat.pow_add, Nat.add_sub_cancel' (Nat.le_of_lt inside)]
  -- The bits that stay are a multiple of the lower bound of the group.
  have kept : 2 ^ shift * payload.toNat % 2 ^ 64 = 2 ^ shift * (payload.toNat % 2 ^ (64 - shift)) := by
    rw [width, Nat.mul_mod_mul_left]
  have fits : 2 ^ shift * (payload.toNat % 2 ^ (64 - shift)) + result.toNat < 2 ^ 64 := by
    have bound := Nat.mod_lt payload.toNat (Nat.two_pow_pos (64 - shift))
    calc 2 ^ shift * (payload.toNat % 2 ^ (64 - shift)) + result.toNat
        < 2 ^ shift * (payload.toNat % 2 ^ (64 - shift)) + 2 ^ shift := Nat.add_lt_add_left low _
      _ = 2 ^ shift * (payload.toNat % 2 ^ (64 - shift) + 1) := (Nat.mul_succ _ _).symm
      _ <= 2 ^ shift * 2 ^ (64 - shift) := Nat.mul_le_mul_left _ bound
      _ = 2 ^ 64 := width.symm
  rw [UInt64.toNat_or, UInt64.toNat_shiftLeft, amount, Nat.shiftLeft_eq, Nat.mul_comm payload.toNat,
    kept, Nat.or_comm, <- Nat.two_pow_add_eq_or_of_lt low, Nat.add_comm result.toNat, Nat.add_mod,
    kept, Nat.mod_eq_of_lt result.toNat_lt, Nat.mod_eq_of_lt fits]

/-- From the group with number `read` on, the loop reads the first complete varint
if at most ten groups are read in all. -/
theorem decodeUvarintFrom_eq (bytes : List UInt8) (result : UInt64) (read : Nat)
    (low : result.toNat < 2 ^ (7 * read)) :
    decodeUvarintFrom result (7 * read) bytes =
      (splitUvarint bytes).bind (fun found =>
        if found.1.length + read <= 10 then
          some (UInt64.ofNat (result.toNat + 2 ^ (7 * read) * uvarintValue found.1), found.2)
        else none) := by
  induction bytes generalizing result read with
  | nil => rfl
  | cons byte rest ih =>
    rw [decodeUvarintFrom]
    by_cases beyond : 64 <= 7 * read
    · -- Ten groups have been read, and any varint here has one more.
      rw [if_pos beyond]
      cases split : splitUvarint (byte :: rest) with
      | none => rfl
      | some =>
        rcases splitUvarint_getLast split with ⟨before, last, shape, _⟩
        rw [Option.bind_some, shape, List.length_append, List.length_singleton, if_neg (by omega)]
    · have inside : 7 * read < 64 := Nat.lt_of_not_le beyond
      have shifted : checkedShl (byte &&& 0x7f).toUInt64 (7 * read) =
          some ((byte &&& 0x7f).toUInt64 <<< UInt64.ofNat (7 * read)) := if_pos inside
      have value := toNat_or_shifted (byte &&& 0x7f).toUInt64 low inside
      rw [toNat_payload] at value
      rw [if_neg beyond]
      simp only [shifted, highBit_eq_zero_iff]
      by_cases last : byte.toNat < 128
      · rw [if_pos last, splitUvarint_last last, Option.bind_some]
        have few : [byte].length + read <= 10 := by
          rw [List.length_singleton]
          omega
        rw [if_pos few]
        congr 2
        apply UInt64.toNat_inj.mp
        rw [value, UInt64.toNat_ofNat', uvarintValue_cons]
        rfl
      · rw [if_neg last, splitUvarint_more (Nat.le_of_not_lt last)]
        have next : (result ||| (byte &&& 0x7f).toUInt64 <<< UInt64.ofNat (7 * read)).toNat <
            2 ^ (7 * (read + 1)) := by
          have bound : result.toNat + 2 ^ (7 * read) * (byte.toNat % 128) < 2 ^ (7 * (read + 1)) := by
            have group := Nat.mod_lt byte.toNat (show 0 < 128 by decide)
            have power : 2 ^ (7 * (read + 1)) = 2 ^ (7 * read) * 128 := by
              rw [Nat.mul_succ, Nat.pow_add]
            calc result.toNat + 2 ^ (7 * read) * (byte.toNat % 128)
                < 2 ^ (7 * read) + 2 ^ (7 * read) * (byte.toNat % 128) :=
                  Nat.add_lt_add_right low _
              _ = 2 ^ (7 * read) * (byte.toNat % 128 + 1) := by ring
              _ <= 2 ^ (7 * read) * 128 := Nat.mul_le_mul_left _ group
              _ = 2 ^ (7 * (read + 1)) := power.symm
          rw [value]
          exact Nat.lt_of_le_of_lt (Nat.mod_le _ _) bound
        rw [show 7 * read + 7 = 7 * (read + 1) from rfl, ih _ _ next, value]
        cases split : splitUvarint rest with
        | none => rfl
        | some found =>
          rw [Option.bind_some, Option.map_some, Option.bind_some, List.length_cons]
          have count : found.1.length + (read + 1) = found.1.length + 1 + read := by omega
          rw [count]
          split
          · congr 2
            apply UInt64.toNat_inj.mp
            rw [UInt64.toNat_ofNat', Nat.mod_add_mod, uvarintValue_cons, Nat.mul_succ, Nat.pow_add]
            congr 1
            ring
          · rfl

/-- `decode_uvarint` reads the first complete varint of at most ten groups, modulo
`2 ^ 64`. -/
theorem decodeUvarint_eq (bytes : List UInt8) :
    decodeUvarint bytes = (splitUvarint bytes).bind (fun found =>
      if found.1.length <= 10 then some (UInt64.ofNat (uvarintValue found.1), found.2)
      else none) := by
  have loop := decodeUvarintFrom_eq bytes 0 0 Nat.one_pos
  simp only [Nat.mul_zero, Nat.pow_zero, Nat.one_mul, UInt64.toNat_zero, Nat.zero_add] at loop
  exact loop

/-! ## Times -/

theorem toInt_zigzagDecode (raw : UInt64) : (zigzagDecode raw).toInt = unzigzag raw.toNat := by
  have half : (raw >>> 1).toBitVec.toNat = raw.toNat / 2 := by
    exact Nat.shiftRight_one raw.toNat
  have bit : (raw &&& 1).toNat = raw.toNat % 2 := by
    exact Nat.and_one_is_mod raw.toNat
  have range := raw.toNat_lt
  rw [zigzagDecode, <- Int64.toInt_toBitVec, Int64.toBitVec_xor, Int64.toBitVec_neg,
    UInt64.toBitVec_toInt64, UInt64.toBitVec_toInt64, BitVec.toInt_eq_toNat_cond, unzigzag]
  by_cases even : raw.toNat % 2 = 0
  · have zero : raw &&& 1 = 0 := UInt64.toNat_inj.mp (bit.trans even)
    have same : (raw >>> 1).toBitVec ^^^ -(raw &&& 1).toBitVec = (raw >>> 1).toBitVec := by
      rw [zero]
      exact BitVec.xor_zero
    rw [same, if_pos even, if_pos (by omega)]
    rfl
  · have one : raw &&& 1 = 1 := UInt64.toNat_inj.mp (bit.trans (by change _ = 1; omega))
    have inverted : (raw >>> 1).toBitVec ^^^ -(raw &&& 1).toBitVec = ~~~(raw >>> 1).toBitVec := by
      rw [one]
      exact BitVec.xor_allOnes
    rw [inverted, BitVec.toNat_not]
    omega

/-- A number read by `decode_uvarint` is accepted as a time if it is even and half
of it is a number of milliseconds in range. -/
theorem msToNs_zigzagDecode (raw : UInt64) :
    msToNs (zigzagDecode raw) =
      if raw.toNat % 2 = 0 ∧ raw.toNat / 2 * msToNsFactor < 2 ^ 64 then
        some (UInt64.ofNat (raw.toNat / 2 * msToNsFactor))
      else none := by
  rw [msToNs, toInt_zigzagDecode, unzigzag]
  by_cases even : raw.toNat % 2 = 0
  · rw [if_pos even, if_neg (by exact Int.not_lt.mpr (Int.natCast_nonneg _))]
    change (if raw.toNat / 2 * msToNsFactor < 2 ^ 64 then _ else _) = _
    by_cases fits : raw.toNat / 2 * msToNsFactor < 2 ^ 64
    · rw [if_pos fits, if_pos ⟨even, fits⟩]
      rfl
    · rw [if_neg fits, if_neg (fun both => fits both.2)]
  · rw [if_neg even, if_pos (Int.negSucc_lt_zero _), if_neg (fun both => even both.1)]

/-- The tenth byte of a varint, 0 if there is none. -/
def tenthByte (groups : List UInt8) : Nat := (groups[9]?.getD 0).toNat

/-- Up to its tenth byte the varint is that of a time in range, and the tenth byte,
if there is one, is even. -/
structure ReadsAsTime (groups : List UInt8) : Prop where
  few : groups.length <= 10
  tenth : tenthByte groups % 2 = 0
  even : uvarintValue (groups.take 9) % 2 = 0
  inRange : uvarintValue (groups.take 9) / 2 * msToNsFactor < 2 ^ 64

section Groups

variable {bytes groups rest : List UInt8} (complete : splitUvarint bytes = some (groups, rest))

include complete

/-- The tenth byte counts `2 ^ 63`. -/
theorem uvarintValue_split (few : groups.length <= 10) :
    uvarintValue groups = uvarintValue (groups.take 9) + 2 ^ 63 * tenthByte groups ∧
      uvarintValue (groups.take 9) < 2 ^ 63 ∧ tenthByte groups < 128 := by
  rcases splitUvarint_getLast complete with ⟨before, last, shape, small⟩
  have length : before.length + 1 = groups.length := by
    rw [shape, List.length_append, List.length_singleton]
  have below : uvarintValue (groups.take 9) < 2 ^ 63 := by
    calc uvarintValue (groups.take 9) < 128 ^ (groups.take 9).length := uvarintValue_lt _
      _ <= 128 ^ 9 := Nat.pow_le_pow_right (by decide) (List.length_take_le 9 groups)
      _ = 2 ^ 63 := by decide
  by_cases ten : before.length = 9
  · have first : groups.take 9 = before := by rw [shape, <- ten, List.take_left]
    have tenth : tenthByte groups = last.toNat := by
      rw [tenthByte, shape, List.getElem?_append_right (Nat.le_of_eq ten), ten]
      rfl
    refine ⟨?_, below, by rw [tenth]; exact small⟩
    rw [first, tenth, shape, uvarintValue_append, ten, uvarintValue_cons, Nat.mod_eq_of_lt small]
    rfl
  · have all : groups.take 9 = groups := List.take_of_length_le (by omega)
    have tenth : tenthByte groups = 0 := by
      rw [tenthByte, List.getElem?_eq_none (by omega)]
      rfl
    exact ⟨by rw [all, tenth, Nat.mul_zero, Nat.add_zero], below, by omega⟩

/-- What the loop makes of a varint of at most ten groups is a time exactly if the
varint reads as one, and the time is that of the first nine groups. -/
theorem msToNs_uvarintValue (few : groups.length <= 10) (ns : UInt64) :
    msToNs (zigzagDecode (UInt64.ofNat (uvarintValue groups))) = some ns <->
      ReadsAsTime groups ∧ ns.toNat = uvarintValue (groups.take 9) / 2 * msToNsFactor := by
  rcases uvarintValue_split complete few with ⟨value, low, small⟩
  have read : (UInt64.ofNat (uvarintValue groups)).toNat =
      (uvarintValue (groups.take 9) + 2 ^ 63 * tenthByte groups) % 2 ^ 64 := by
    rw [UInt64.toNat_ofNat', value]
  rw [msToNs_zigzagDecode]
  generalize (UInt64.ofNat (uvarintValue groups)).toNat = raw at read
  constructor
  · intro accepted
    split at accepted
    next accepts =>
      have bound : raw / 2 * 1000000 < 2 ^ 64 := accepts.2
      have same : raw = uvarintValue (groups.take 9) := by omega
      have reads : ReadsAsTime groups :=
        ⟨few, by omega, by omega, by rw [<- same]; exact accepts.2⟩
      refine ⟨reads, ?_⟩
      rw [<- Option.some.inj accepted, UInt64.toNat_ofNat', same, Nat.mod_eq_of_lt reads.inRange]
    next => cases accepted
  · rintro ⟨reads, time⟩
    have tenth := reads.tenth
    have same : raw = uvarintValue (groups.take 9) := by omega
    rw [same, if_pos ⟨reads.even, reads.inRange⟩, <- time, UInt64.ofNat_toNat]

end Groups

/-! ## Contexts -/

/-- The time of a varint that fits in 64 bits, as it was meant. -/
structure TimeOf (groups : List UInt8) (ns : UInt64) : Prop where
  fits : uvarintValue groups < 2 ^ 64
  time : (ns.toNat : Int) = unzigzag (uvarintValue groups) * msToNsFactor

/-- A context that is read from the bytes has their hash and the times of two
complete varints that fit in 64 bits. -/
def ReadsFaithfully (bytes : List UInt8) : Prop :=
  forall context, fromBytes bytes = some context ->
    Exists fun first => Exists fun rest => Exists fun second => Exists fun trailing =>
      8 <= bytes.length ∧ context.hash = bytes.take 8 ∧
        splitUvarint (bytes.drop 8) = some (first, rest) ∧
        splitUvarint rest = some (second, trailing) ∧
        TimeOf first context.pathwayStartNs ∧ TimeOf second context.edgeStartNs

/-- A time is read as it was meant exactly if the tenth byte is 0. -/
theorem timeOf_iff {bytes groups rest : List UInt8} {ns : UInt64}
    (complete : splitUvarint bytes = some (groups, rest)) (reads : ReadsAsTime groups)
    (time : ns.toNat = uvarintValue (groups.take 9) / 2 * msToNsFactor) :
    TimeOf groups ns <-> tenthByte groups = 0 := by
  rcases uvarintValue_split complete reads.few with ⟨value, low, small⟩
  have tenth := reads.tenth
  constructor
  · intro meant
    have fits := meant.fits
    omega
  · intro none_
    rw [none_, Nat.mul_zero, Nat.add_zero] at value
    refine ⟨by omega, ?_⟩
    rw [time, value, unzigzag, if_pos reads.even]
    rfl

/-- A varint that the loop reads. -/
theorem decodeUvarint_split {bytes groups rest : List UInt8}
    (complete : splitUvarint bytes = some (groups, rest)) (few : groups.length <= 10) :
    decodeUvarint bytes = some (UInt64.ofNat (uvarintValue groups), rest) := by
  rw [decodeUvarint_eq, complete, Option.bind_some, if_pos few]

theorem decodeUvarint_some {bytes rest : List UInt8} {raw : UInt64}
    (read : decodeUvarint bytes = some (raw, rest)) :
    Exists fun groups => splitUvarint bytes = some (groups, rest) ∧
      groups.length <= 10 ∧ raw = UInt64.ofNat (uvarintValue groups) := by
  rw [decodeUvarint_eq] at read
  rcases Option.bind_eq_some_iff.mp read with ⟨⟨groups, after⟩, complete, taken⟩
  split at taken
  next few =>
    cases taken
    exact ⟨groups, complete, few, rfl⟩
  next => cases taken

/-- When a context is read, and which. -/
theorem fromBytes_eq_some_iff (bytes : List UInt8) (context : DsmContext) :
    fromBytes bytes = some context <->
      8 <= bytes.length ∧ context.hash = bytes.take 8 ∧
        Exists fun first => Exists fun rest => Exists fun second => Exists fun trailing =>
          splitUvarint (bytes.drop 8) = some (first, rest) ∧
            splitUvarint rest = some (second, trailing) ∧
            (ReadsAsTime first ∧ context.pathwayStartNs.toNat =
              uvarintValue (first.take 9) / 2 * msToNsFactor) ∧
            (ReadsAsTime second ∧ context.edgeStartNs.toNat =
              uvarintValue (second.take 9) / 2 * msToNsFactor) := by
  constructor
  · intro read
    rw [fromBytes] at read
    split at read
    next => cases read
    next enough =>
      rcases Option.bind_eq_some_iff.mp read with ⟨pathway, readPathway, read⟩
      rcases Option.bind_eq_some_iff.mp read with ⟨edge, readEdge, read⟩
      rcases Option.bind_eq_some_iff.mp read with ⟨pathwayNs, pathwayTime, read⟩
      rcases Option.bind_eq_some_iff.mp read with ⟨edgeNs, edgeTime, read⟩
      obtain rfl := Option.some.inj read
      rcases Option.map_eq_some_iff.mp readPathway with ⟨⟨raw, rest⟩, decoded, rfl⟩
      rcases Option.map_eq_some_iff.mp readEdge with ⟨⟨edgeRaw, trailing⟩, edgeDecoded, rfl⟩
      rcases decodeUvarint_some decoded with ⟨first, complete, few, rfl⟩
      rcases decodeUvarint_some edgeDecoded with ⟨second, edgeComplete, edgeFew, rfl⟩
      exact ⟨Nat.le_of_not_lt enough, rfl, first, rest, second, trailing, complete, edgeComplete,
        (msToNs_uvarintValue complete few _).mp pathwayTime,
        (msToNs_uvarintValue edgeComplete edgeFew _).mp edgeTime⟩
  · rintro ⟨enough, hash, first, rest, second, trailing, complete, edgeComplete, pathway, edge⟩
    have pathwayTime := (msToNs_uvarintValue complete pathway.1.few _).mpr pathway
    have edgeTime := (msToNs_uvarintValue edgeComplete edge.1.few _).mpr edge
    rw [fromBytes, dif_neg (Nat.not_lt_of_le enough)]
    simp only [decodeZigzagVarint, decodeUvarint_split complete pathway.1.few,
      decodeUvarint_split edgeComplete edge.1.few, Option.map_some, Option.bind_eq_bind,
      Option.bind_some, pathwayTime, edgeTime]
    rcases context with ⟨contextHash, pathwayStartNs, edgeStartNs, _⟩
    cases hash
    rfl

/-- Contexts are read faithfully exactly from the bytes that have no other than a
zero as the tenth byte of a varint, or that are no context in any case. -/
theorem context_read_faithfully_iff (bytes : List UInt8) :
    ReadsFaithfully bytes <->
      forall first rest second trailing : List UInt8,
        splitUvarint (bytes.drop 8) = some (first, rest) ->
        splitUvarint rest = some (second, trailing) -> ReadsAsTime first -> ReadsAsTime second ->
          tenthByte first = 0 ∧ tenthByte second = 0 := by
  constructor
  · intro faithful first rest second trailing complete edgeComplete pathway edge
    have enough : 8 <= bytes.length := by
      by_contra short
      rw [List.drop_eq_nil_of_le (by omega)] at complete
      cases complete
    -- The context that is read from these bytes.
    let pathwayNs := UInt64.ofNat (uvarintValue (first.take 9) / 2 * msToNsFactor)
    let edgeNs := UInt64.ofNat (uvarintValue (second.take 9) / 2 * msToNsFactor)
    have pathwayTime : pathwayNs.toNat = uvarintValue (first.take 9) / 2 * msToNsFactor := by
      rw [UInt64.toNat_ofNat', Nat.mod_eq_of_lt pathway.inRange]
    have edgeTime : edgeNs.toNat = uvarintValue (second.take 9) / 2 * msToNsFactor := by
      rw [UInt64.toNat_ofNat', Nat.mod_eq_of_lt edge.inRange]
    have read := (fromBytes_eq_some_iff bytes
      ⟨bytes.take 8, pathwayNs, edgeNs, List.length_take_of_le enough⟩).mpr
      ⟨enough, rfl, first, rest, second, trailing, complete, edgeComplete,
        ⟨pathway, pathwayTime⟩, ⟨edge, edgeTime⟩⟩
    rcases faithful _ read with ⟨_, _, _, _, _, _, split, edgeSplit, meant, edgeMeant⟩
    rw [complete] at split
    cases split
    rw [edgeComplete] at edgeSplit
    cases edgeSplit
    exact ⟨(timeOf_iff complete pathway pathwayTime).mp meant,
      (timeOf_iff edgeComplete edge edgeTime).mp edgeMeant⟩
  · intro zeros context read
    rcases (fromBytes_eq_some_iff bytes context).mp read with
      ⟨enough, hash, first, rest, second, trailing, complete, edgeComplete, pathway, edge⟩
    have tenth := zeros first rest second trailing complete edgeComplete pathway.1 edge.1
    exact ⟨first, rest, second, trailing, enough, hash, complete, edgeComplete,
      (timeOf_iff complete pathway.1 pathway.2).mpr tenth.1,
      (timeOf_iff edgeComplete edge.1 edge.2).mpr tenth.2⟩

/-- The varint of `2 ^ 64` is read as the time 0. -/
theorem overflowing_varint_accepted : ¬ forall bytes : List UInt8, ReadsFaithfully bytes := by
  intro always
  let bytes : List UInt8 := [0, 0, 0, 0, 0, 0, 0, 0,
    0x80, 0x80, 0x80, 0x80, 0x80, 0x80, 0x80, 0x80, 0x80, 0x02, 0x00]
  have read : fromBytes bytes = some ⟨[0, 0, 0, 0, 0, 0, 0, 0], 0, 0, rfl⟩ := by decide +kernel
  rcases always bytes _ read with ⟨first, rest, _, _, _, _, split, _, meant, _⟩
  have found : splitUvarint (bytes.drop 8) =
      some ([0x80, 0x80, 0x80, 0x80, 0x80, 0x80, 0x80, 0x80, 0x80, 0x02], [0x00]) := rfl
  cases split
  exact absurd meant.fits (by decide)

end DataStreams
end Bottlecap
