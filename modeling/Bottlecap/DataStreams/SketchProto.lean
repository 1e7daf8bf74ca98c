import Bottlecap.DataStreams.PathwayContext
import Bottlecap.DataStreams.Sketch
import Bottlecap.Foundations.ProtoWire

namespace Bottlecap
namespace DataStreams

open Foundations

/-!
# Sketches on the wire

`to_proto_bytes` writes a sketch as a protobuf message by hand, with nested messages
for the mapping and the two stores.  The functions below append to a buffer as the
source does.  They are compared with the fields they are meant to write, and those
are read back by the rules of the wire format.

A weight is an `f64`; only its 64 bits are written, so it is modelled by them.
-/

section Writing

def wireVarint : UInt8 := 0

def wireFixed64 : UInt8 := 1

def wireLen : UInt8 := 2

theorem toNat_shiftRight_seven (value : UInt64) : (value >>> 7).toNat = value.toNat / 128 := by
  exact Nat.shiftRight_eq_div_pow value.toNat 7

theorem shiftRight_seven_ne_zero_iff (value : UInt64) : value >>> 7 ≠ 0 <-> 128 <= value.toNat := by
  rw [Ne, <- UInt64.toNat_inj, toNat_shiftRight_seven]
  change value.toNat / 128 ≠ 0 <-> _
  omega

/-- The loop of `write_uvarint`. -/
def writeUvarint (buf : List UInt8) (value : UInt64) : List UInt8 :=
  let byte := (value &&& 0x7f).toUInt8
  if _more : value >>> 7 ≠ 0 then writeUvarint (buf ++ [byte ||| 0x80]) (value >>> 7)
  else buf ++ [byte]
termination_by value.toNat
decreasing_by
  have := (shiftRight_seven_ne_zero_iff value).mp _more
  rw [toNat_shiftRight_seven]
  omega

def writeTag (buf : List UInt8) (field : UInt32) (wire : UInt8) : List UInt8 :=
  writeUvarint buf (field <<< 3 ||| wire.toUInt32).toUInt64

def writeZigzag32 (buf : List UInt8) (value : Int32) : List UInt8 :=
  writeUvarint buf (value <<< 1 ^^^ value >>> 31).toUInt32.toUInt64

/-- `f64::to_le_bytes` on the bits of the number. -/
def toLeBytes (bits : UInt64) : List UInt8 := littleEndianBytes 8 bits.toNat

def encodeStore (store : CollapsingLowestDenseStore UInt64) : List UInt8 :=
  let bins :=
    if store.bins.isEmpty then []
    else
      store.bins.foldl (fun buf count => buf ++ toLeBytes count)
        (writeUvarint (writeTag [] 2 wireLen) (UInt64.ofNat (store.bins.length * 8)))
  writeZigzag32 (writeTag bins 3 wireVarint) (Int32.ofInt store.offset)

/-- The bins take no more memory than a `Vec` can, and the offset is an `i32`. -/
structure InMemory (store : CollapsingLowestDenseStore UInt64) : Prop where
  bins : store.bins.length * 8 < 2 ^ 63
  low : i32Min <= store.offset
  high : store.offset <= i32Max

/-- What `to_proto_bytes` reads of a sketch. -/
structure DdSketch where
  gamma : UInt64
  store : CollapsingLowestDenseStore UInt64
  negativeStore : CollapsingLowestDenseStore UInt64
  zeroCount : UInt64
  store_inMemory : InMemory store
  negativeStore_inMemory : InMemory negativeStore

/-- A new store, with the bits of `0.0` for its count. -/
def newStore : CollapsingLowestDenseStore UInt64 := @CollapsingLowestDenseStore.new UInt64 ⟨0⟩

theorem inMemory_newStore : InMemory newStore :=
  ⟨by decide, by decide, by decide⟩

/-- `DdSketch::new`, given the bits of the mapping's gamma. -/
def DdSketch.new (gamma : UInt64) : DdSketch where
  gamma := gamma
  store := newStore
  negativeStore := newStore
  zeroCount := 0
  store_inMemory := inMemory_newStore
  negativeStore_inMemory := inMemory_newStore

def toProtoBytes (sketch : DdSketch) : List UInt8 :=
  let mapping := writeTag [] 1 wireFixed64 ++ toLeBytes sketch.gamma
  let mapping := writeTag mapping 2 wireFixed64 ++ toLeBytes 0
  let mapping := writeTag mapping 3 wireVarint ++ [0]
  let out := writeUvarint (writeTag [] 1 wireLen) (UInt64.ofNat mapping.length) ++ mapping
  let pos := encodeStore sketch.store
  let out := writeUvarint (writeTag out 2 wireLen) (UInt64.ofNat pos.length) ++ pos
  let neg := encodeStore sketch.negativeStore
  let out := writeUvarint (writeTag out 3 wireLen) (UInt64.ofNat neg.length) ++ neg
  writeTag out 4 wireFixed64 ++ toLeBytes sketch.zeroCount

end Writing

/-! ## What is written -/

variable {store : CollapsingLowestDenseStore UInt64}

theorem toNat_low_group (value : UInt64) : (value &&& 0x7f).toUInt8 = UInt8.ofNat (value.toNat % 128) := by
  apply UInt8.toNat_inj.mp
  have low : (value &&& 0x7f).toNat = value.toNat % 128 := by
    exact Nat.and_two_pow_sub_one_eq_mod value.toNat 7
  rw [UInt64.toNat_toUInt8, low, UInt8.toNat_ofNat']

theorem or_highBit {number : Nat} (small : number < 128) :
    UInt8.ofNat number ||| 0x80 = UInt8.ofNat (number + 128) := by
  apply UInt8.toNat_inj.mp
  rw [UInt8.toNat_or, toNat_group (by omega), toNat_group (by omega), Nat.or_comm]
  exact (Nat.two_pow_add_eq_or_of_lt (show number < 2 ^ 7 from small) 1).symm.trans
    (Nat.add_comm _ _)

variable (buf : List UInt8)

/-- `write_uvarint` appends the shortest varint. -/
theorem writeUvarint_eq (value : UInt64) :
    writeUvarint buf value = buf ++ uvarintBytes value.toNat := by
  induction buf, value using writeUvarint.induct with
  | case1 buf value byte more ih =>
    have large := (shiftRight_seven_ne_zero_iff value).mp more
    have group : byte ||| 0x80 = UInt8.ofNat (value.toNat % 128 + 128) := by
      rw [<- or_highBit (Nat.mod_lt _ (by decide)), <- toNat_low_group]
    have groups : uvarintBytes value.toNat =
        UInt8.ofNat (value.toNat % 128 + 128) :: uvarintBytes (value.toNat / 128) := by
      rw [uvarintBytes, if_neg (by omega)]
    rw [writeUvarint, dif_pos more, ih, toNat_shiftRight_seven, groups, List.append_assoc,
      List.singleton_append, group]
  | case2 buf value last =>
    have small : value.toNat < 128 := by
      by_contra large
      exact last ((shiftRight_seven_ne_zero_iff value).mpr (by omega))
    rw [writeUvarint, dif_neg last, uvarintBytes, if_pos small, toNat_low_group,
      Nat.mod_eq_of_lt small]

theorem writeTag_eq {field : UInt32} {wire : UInt8} (small : field.toNat < 2 ^ 29)
    (wireType : wire.toNat < 8) :
    writeTag buf field wire = buf ++ uvarintBytes (8 * field.toNat + wire.toNat) := by
  have tag : (field <<< 3 ||| wire.toUInt32).toUInt64.toNat = 8 * field.toNat + wire.toNat := by
    have shifted : (field <<< 3).toNat = 2 ^ 3 * field.toNat := by
      change field.toNat <<< 3 % 2 ^ 32 = _
      rw [Nat.shiftLeft_eq, Nat.mod_eq_of_lt (by omega), Nat.mul_comm]
    rw [UInt32.toNat_toUInt64, UInt32.toNat_or, shifted, UInt8.toNat_toUInt32,
      <- Nat.two_pow_add_eq_or_of_lt (show wire.toNat < 2 ^ 3 from wireType)]
  rw [writeTag, writeUvarint_eq, tag]

/-- An arithmetic shift by 31 leaves the sign. -/
theorem toNat_zigzag32 (value : Int32) :
    (value <<< 1 ^^^ value >>> 31).toUInt32.toNat = zigzag value.toInt := by
  have bits : (value <<< 1 ^^^ value >>> 31).toUInt32.toNat =
      (value.toBitVec <<< 1 ^^^ value.toBitVec.sshiftRight 31).toNat := by
    rfl
  have doubled : (value.toBitVec <<< 1).toNat = 2 * value.toBitVec.toNat % 2 ^ 32 := by
    rw [BitVec.toNat_shiftLeft, Nat.shiftLeft_eq, Nat.mul_comm]
  have sign : (value.toBitVec.sshiftRight 31).toInt = value.toBitVec.toInt / 2 ^ 31 := by
    rw [BitVec.toInt_sshiftRight, Int.shiftRight_eq_div_pow]
    rfl
  have read := BitVec.toInt_eq_toNat_cond value.toBitVec
  rw [bits, <- Int32.toInt_toBitVec]
  by_cases positive : 2 * value.toBitVec.toNat < 2 ^ 32
  · rw [if_pos positive] at read
    have zero : value.toBitVec.sshiftRight 31 = 0#32 := by
      apply BitVec.eq_of_toInt_eq
      change _ = 0
      omega
    rw [read, zero, BitVec.xor_zero, doubled, zigzag_nonneg, Nat.mod_eq_of_lt positive]
  · rw [if_neg positive] at read
    have ones : value.toBitVec.sshiftRight 31 = BitVec.allOnes 32 := by
      apply BitVec.eq_of_toInt_eq
      change _ = -1
      omega
    have negative : (value.toBitVec.toNat : Int) - ((2 ^ 32 : Nat) : Int) =
        Int.negSucc (2 ^ 32 - 1 - value.toBitVec.toNat) := by
      omega
    rw [read, ones, BitVec.xor_allOnes, BitVec.toNat_not, negative, zigzag]
    omega

theorem writeZigzag32_eq (value : Int32) :
    writeZigzag32 buf value = buf ++ uvarintBytes (zigzag value.toInt) := by
  rw [writeZigzag32, writeUvarint_eq, UInt32.toNat_toUInt64, toNat_zigzag32]

theorem foldl_append_flatMap (bins : List UInt64) :
    bins.foldl (fun buf count => buf ++ toLeBytes count) buf = buf ++ bins.flatMap toLeBytes := by
  induction bins generalizing buf with
  | nil => exact (List.append_nil buf).symm
  | cons _ _ ih => rw [List.foldl_cons, ih, List.flatMap_cons, List.append_assoc]

theorem length_flatMap_toLeBytes (bins : List UInt64) :
    (bins.flatMap toLeBytes).length = bins.length * 8 := by
  induction bins with
  | nil => rfl
  | cons _ _ ih =>
    rw [List.flatMap_cons, List.length_append, toLeBytes, length_littleEndianBytes,
      List.length_cons]
    omega

/-- The fields of a store. -/
def storeFields (store : CollapsingLowestDenseStore UInt64) : List WireField :=
  (if store.bins.isEmpty then [] else [⟨2, .len (store.bins.flatMap toLeBytes)⟩]) ++
    [⟨3, .varint (zigzag store.offset)⟩]

def mappingFields (sketch : DdSketch) : List WireField :=
  [⟨1, .fixed64 sketch.gamma.toNat⟩, ⟨2, .fixed64 0⟩, ⟨3, .varint 0⟩]

def sketchFields (sketch : DdSketch) : List WireField :=
  [⟨1, .len ((mappingFields sketch).flatMap WireField.bytes)⟩,
    ⟨2, .len ((storeFields sketch.store).flatMap WireField.bytes)⟩,
    ⟨3, .len ((storeFields sketch.negativeStore).flatMap WireField.bytes)⟩,
    ⟨4, .fixed64 sketch.zeroCount.toNat⟩]

theorem toInt_ofInt (inMemory : InMemory store) :
    (Int32.ofInt store.offset).toInt = store.offset := by
  have low := inMemory.low
  have high := inMemory.high
  rw [i32Min] at low
  rw [i32Max] at high
  exact Int32.toInt_ofInt_of_le (by omega) (by omega)

theorem encodeStore_eq (inMemory : InMemory store) :
    encodeStore store = (storeFields store).flatMap WireField.bytes := by
  have offset := toInt_ofInt inMemory
  have room := inMemory.bins
  have number : (UInt64.ofNat (store.bins.length * 8)).toNat = (store.bins.flatMap toLeBytes).length := by
    rw [UInt64.toNat_ofNat', length_flatMap_toLeBytes, Nat.mod_eq_of_lt (by omega)]
  rw [encodeStore, storeFields, List.flatMap_append, List.flatMap_singleton]
  rw [writeZigzag32_eq, offset, writeTag_eq _ (by decide) (by decide), List.append_assoc]
  congr 1
  by_cases empty : store.bins.isEmpty
  · rw [if_pos empty, if_pos empty]
    rfl
  · rw [if_neg empty, if_neg empty, foldl_append_flatMap, writeUvarint_eq, number,
      writeTag_eq _ (by decide) (by decide), List.flatMap_singleton, List.nil_append, WireField.bytes,
      WireValue.bytes, List.append_assoc]
    rfl

/-- A nested message is written with its length. -/
theorem writeLen_eq (content : List UInt8) {field : UInt32} (small : field.toNat < 2 ^ 29)
    (room : content.length < 2 ^ 64) :
    writeUvarint (writeTag buf field wireLen) (UInt64.ofNat content.length) ++ content =
      buf ++ WireField.bytes ⟨field.toNat, .len content⟩ := by
  have length_eq : (UInt64.ofNat content.length).toNat = content.length := by
    rw [UInt64.toNat_ofNat', Nat.mod_eq_of_lt room]
  rw [writeUvarint_eq, length_eq, writeTag_eq _ small (by decide), WireField.bytes,
    List.append_assoc, List.append_assoc]
  rfl

theorem writeFixed64_eq {field : UInt32} (small : field.toNat < 2 ^ 29)
    (bits : UInt64) :
    writeTag buf field wireFixed64 ++ toLeBytes bits =
      buf ++ WireField.bytes ⟨field.toNat, .fixed64 bits.toNat⟩ := by
  rw [writeTag_eq _ small (by decide), WireField.bytes, List.append_assoc]
  rfl

theorem zigzag_lt (inMemory : InMemory store) :
    zigzag store.offset < 2 ^ 32 := by
  have low := inMemory.low
  have high := inMemory.high
  rw [i32Min] at low
  rw [i32Max] at high
  cases offset : store.offset with
  | ofNat number =>
    rw [offset] at high
    change 2 * number < 2 ^ 32
    rw [Int.ofNat_eq_natCast] at high
    omega
  | negSucc number =>
    change 2 * number + 1 < 2 ^ 32
    omega

theorem storeFields_wellFormed (inMemory : InMemory store) (field : WireField)
    (member : field ∈ storeFields store) :
    field.WellFormed := by
  have room := inMemory.bins
  rcases List.mem_append.mp member with bins | offset
  · by_cases empty : store.bins.isEmpty
    · rw [if_pos empty] at bins
      exact absurd bins List.not_mem_nil
    · rw [if_neg empty, List.mem_singleton] at bins
      rw [bins]
      apply WireField.wellFormed_mk (by decide) (by decide)
      change (store.bins.flatMap toLeBytes).length < 2 ^ 64
      rw [length_flatMap_toLeBytes]
      omega
  · rw [List.mem_singleton] at offset
    rw [offset]
    apply WireField.wellFormed_mk (by decide) (by decide)
    change zigzag store.offset < 2 ^ 64
    have := zigzag_lt inMemory
    omega

theorem length_storeFields (inMemory : InMemory store) :
    ((storeFields store).flatMap WireField.bytes).length < 2 ^ 64 := by
  have room := inMemory.bins
  have bound := length_fields_le (storeFields_wellFormed inMemory)
  rw [storeFields] at bound ⊢
  by_cases empty : store.bins.isEmpty
  · rw [if_pos empty] at bound ⊢
    exact Nat.lt_of_le_of_lt bound (show 20 < 2 ^ 64 by decide)
  · rw [if_neg empty] at bound ⊢
    change _ <= 20 + (store.bins.flatMap toLeBytes).length + 20 at bound
    rw [length_flatMap_toLeBytes] at bound
    omega

theorem mappingFields_wellFormed (sketch : DdSketch) :
    forall field, field ∈ mappingFields sketch -> field.WellFormed := by
  rw [mappingFields, List.forall_mem_cons, List.forall_mem_cons, List.forall_mem_singleton]
  refine ⟨WireField.wellFormed_mk (by decide) (by decide) sketch.gamma.toNat_lt, ?_, ?_⟩
  · exact WireField.wellFormed_mk (by decide) (by decide) (show 0 < 2 ^ 64 by decide)
  · exact WireField.wellFormed_mk (by decide) (by decide) (show 0 < 2 ^ 64 by decide)

theorem length_mappingFields (sketch : DdSketch) :
    ((mappingFields sketch).flatMap WireField.bytes).length < 2 ^ 64 := by
  have bound := length_fields_le (mappingFields_wellFormed sketch)
  exact Nat.lt_of_le_of_lt bound (show 60 < 2 ^ 64 by decide)

theorem toProtoBytes_eq (sketch : DdSketch) :
    toProtoBytes sketch = (sketchFields sketch).flatMap WireField.bytes := by
  have zero : uvarintBytes 0 = [0] := by
    rw [uvarintBytes]
    rfl
  have mapping : writeTag (writeTag (writeTag [] 1 wireFixed64 ++ toLeBytes sketch.gamma) 2
      wireFixed64 ++ toLeBytes 0) 3 wireVarint ++ [0] =
        (mappingFields sketch).flatMap WireField.bytes := by
    rw [writeFixed64_eq _ (by decide), writeFixed64_eq _ (by decide),
      writeTag_eq _ (by decide) (by decide), <- zero]
    simp only [mappingFields, List.flatMap_cons, List.flatMap_nil, List.append_nil,
      List.append_assoc]
    rfl
  simp only [toProtoBytes, mapping, encodeStore_eq sketch.store_inMemory,
    encodeStore_eq sketch.negativeStore_inMemory]
  rw [writeLen_eq _ _ (by decide) (length_mappingFields sketch),
    writeLen_eq _ _ (by decide) (length_storeFields sketch.store_inMemory),
    writeLen_eq _ _ (by decide) (length_storeFields sketch.negativeStore_inMemory),
    writeFixed64_eq _ (by decide)]
  simp only [sketchFields, List.flatMap_cons, List.flatMap_nil, List.append_nil, List.append_assoc]
  rfl

/-! ## What is read back

The messages as the schema of a sketch declares them.  A message with an unknown
field is not read, nor one that lacks a field or has it twice; only the packed counts
may be missing or come in parts. -/

structure MappingMessage where
  gamma : UInt64
  indexOffset : UInt64
  interpolation : Nat

def readMapping (bytes : List UInt8) : Option MappingMessage := do
  let fields <- readFields bytes
  if fields.all (fun field => field.number ∈ [1, 2, 3]) then
    match valuesOf 1 fields, valuesOf 2 fields, valuesOf 3 fields with
    | [.fixed64 gamma], [.fixed64 indexOffset],
        [.varint interpolation] =>
        some ⟨UInt64.ofNat gamma, UInt64.ofNat indexOffset, interpolation⟩
    | _, _, _ => none
  else none

structure StoreMessage where
  contiguousBinCounts : List UInt64
  contiguousBinIndexOffset : Int

/-- A part of the counts, packed or single. -/
def readCounts : WireValue -> Option (List UInt64)
  | .len content => (readPacked64 content).map (fun counts => counts.map UInt64.ofNat)
  | .fixed64 bits => some [UInt64.ofNat bits]
  | _ => none

/-- A `sint32` is the zigzag reading of the low 32 bits. -/
def readStore (bytes : List UInt8) : Option StoreMessage := do
  let fields <- readFields bytes
  if fields.all (fun field => field.number ∈ [2, 3]) then
    match valuesOf 3 fields with
    | [.varint raw] => do
        let counts <- (valuesOf 2 fields).mapM readCounts
        some ⟨counts.flatten, unzigzag (raw % 2 ^ 32)⟩
    | _ => none
  else none

structure SketchMessage where
  mapping : MappingMessage
  positiveValues : StoreMessage
  negativeValues : StoreMessage
  zeroCount : UInt64

def readSketch (bytes : List UInt8) : Option SketchMessage := do
  let fields <- readFields bytes
  if fields.all (fun field => field.number ∈ [1, 2, 3, 4]) then
    match valuesOf 1 fields, valuesOf 2 fields, valuesOf 3 fields, valuesOf 4 fields with
    | [.len mapping], [.len positive], [.len negative],
        [.fixed64 zeroCount] => do
        let mapping <- readMapping mapping
        let positive <- readStore positive
        let negative <- readStore negative
        some ⟨mapping, positive, negative, UInt64.ofNat zeroCount⟩
    | _, _, _, _ => none
  else none

theorem readMapping_mappingFields (sketch : DdSketch) :
    readMapping ((mappingFields sketch).flatMap WireField.bytes) = some ⟨sketch.gamma, 0, 0⟩ := by
  have fields := readFields_bytes (mappingFields_wellFormed sketch)
  rw [readMapping, fields]
  change some (⟨UInt64.ofNat sketch.gamma.toNat, 0, 0⟩ : MappingMessage) = _
  rw [UInt64.ofNat_toNat]

theorem readCounts_bins (bins : List UInt64) :
    readCounts (.len (bins.flatMap toLeBytes)) = some bins := by
  have bits : bins.flatMap toLeBytes = (bins.map UInt64.toNat).flatMap (littleEndianBytes 8) := by
    rw [List.flatMap_map]
    rfl
  have small : forall value, value ∈ bins.map UInt64.toNat -> value < 2 ^ 64 := by
    intro value member
    rcases List.mem_map.mp member with ⟨count, _, same⟩
    rw [<- same]
    exact count.toNat_lt
  have back : (bins.map UInt64.toNat).map UInt64.ofNat = bins := by
    rw [List.map_map]
    exact List.map_id'' (fun count => UInt64.ofNat_toNat) bins
  rw [readCounts, bits, readPacked64_bytes small, Option.map_some, back]

theorem readStore_storeFields (inMemory : InMemory store) :
    readStore ((storeFields store).flatMap WireField.bytes) = some ⟨store.bins, store.offset⟩ := by
  have fields := readFields_bytes (storeFields_wellFormed inMemory)
  have offset : unzigzag (zigzag store.offset % 2 ^ 32) = store.offset := by
    rw [Nat.mod_eq_of_lt (zigzag_lt inMemory), unzigzag_zigzag]
  rw [readStore, fields, storeFields]
  by_cases empty : store.bins.isEmpty
  · rw [if_pos empty]
    change some (⟨[], unzigzag (zigzag store.offset % 2 ^ 32)⟩ : StoreMessage) = _
    rw [offset, List.isEmpty_iff.mp empty]
  · rw [if_neg empty]
    change ((readCounts (.len (store.bins.flatMap toLeBytes))).bind _).bind _ = _
    rw [readCounts_bins]
    change some (⟨store.bins ++ [], unzigzag (zigzag store.offset % 2 ^ 32)⟩ : StoreMessage) = _
    rw [offset, List.append_nil]

theorem sketchFields_wellFormed (sketch : DdSketch) :
    forall field, field ∈ sketchFields sketch -> field.WellFormed := by
  rw [sketchFields, List.forall_mem_cons, List.forall_mem_cons, List.forall_mem_cons,
    List.forall_mem_singleton]
  refine ⟨?_, ?_, ?_, ?_⟩
  · exact WireField.wellFormed_mk (by decide) (by decide) (length_mappingFields sketch)
  · exact WireField.wellFormed_mk (by decide) (by decide) (length_storeFields sketch.store_inMemory)
  · exact WireField.wellFormed_mk (by decide) (by decide)
      (length_storeFields sketch.negativeStore_inMemory)
  · exact WireField.wellFormed_mk (by decide) (by decide) sketch.zeroCount.toNat_lt

/-- Reading the bytes of a sketch by the wire format gives back its mapping, its two
stores and its zero count, with nothing left. -/
theorem sketch_read_back (sketch : DdSketch) :
    readSketch (toProtoBytes sketch) = some {
      mapping := ⟨sketch.gamma, 0, 0⟩
      positiveValues := ⟨sketch.store.bins, sketch.store.offset⟩
      negativeValues := ⟨sketch.negativeStore.bins, sketch.negativeStore.offset⟩
      zeroCount := sketch.zeroCount } := by
  have fields := readFields_bytes (sketchFields_wellFormed sketch)
  rw [toProtoBytes_eq, readSketch, fields]
  change (readMapping ((mappingFields sketch).flatMap WireField.bytes)).bind _ = _
  rw [readMapping_mappingFields]
  change (readStore ((storeFields sketch.store).flatMap WireField.bytes)).bind _ = _
  rw [readStore_storeFields sketch.store_inMemory]
  change (readStore ((storeFields sketch.negativeStore).flatMap WireField.bytes)).bind _ = _
  rw [readStore_storeFields sketch.negativeStore_inMemory, Option.bind_some, UInt64.ofNat_toNat]

example : (readSketch (toProtoBytes (DdSketch.new 5))).map (fun read => read.mapping.gamma) =
    some 5 := by decide +kernel

/-! ## Varints of the encoder and the context decoder -/

theorem decodeUvarint_writeUvarint (value : UInt64) (rest : List UInt8) :
    decodeUvarint (writeUvarint [] value ++ rest) = some (value, rest) := by
  rw [writeUvarint_eq, List.nil_append,
    decodeUvarint_split (splitUvarint_uvarintBytes value.toNat rest)
      (length_uvarintBytes_le value.toNat_lt),
    uvarintValue_uvarintBytes, UInt64.ofNat_toNat]

theorem decodeZigzagVarint_writeZigzag32 (value : Int32) :
    decodeZigzagVarint (writeZigzag32 [] value) = some (value.toInt64, []) := by
  have raw : ((value <<< 1 ^^^ value >>> 31).toUInt32.toUInt64).toNat = zigzag value.toInt := by
    rw [UInt32.toNat_toUInt64, toNat_zigzag32]
  have back : zigzagDecode (value <<< 1 ^^^ value >>> 31).toUInt32.toUInt64 = value.toInt64 := by
    apply Int64.toInt_inj.mp
    rw [toInt_zigzagDecode, raw, unzigzag_zigzag, Int32.toInt_toInt64]
  have read := decodeUvarint_writeUvarint (value <<< 1 ^^^ value >>> 31).toUInt32.toUInt64 []
  rw [List.append_nil] at read
  rw [decodeZigzagVarint, writeZigzag32, read, Option.map_some, back]

/-- A time in milliseconds, written as a zigzag varint. -/
def writeTime (ms : Nat) : List UInt8 := writeUvarint [] (UInt64.ofNat (zigzag ms))

theorem msToNs_writeTime {ms : Nat} (inRange : ms * msToNsFactor < 2 ^ 64) :
    msToNs (zigzagDecode (UInt64.ofNat (zigzag ms))) = some (UInt64.ofNat (ms * msToNsFactor)) := by
  have bound : ms * 1000000 < 2 ^ 64 := inRange
  have raw : (UInt64.ofNat (zigzag ms)).toNat = 2 * ms := by
    rw [UInt64.toNat_ofNat', zigzag_nonneg, Nat.mod_eq_of_lt (by omega)]
  have half : 2 * ms / 2 = ms := Nat.mul_div_cancel_left ms (by decide)
  rw [msToNs_zigzagDecode, raw, half, if_pos ⟨Nat.mul_mod_right 2 ms, inRange⟩]

theorem fromBytes_written {hash : List UInt8} (hash_length : hash.length = 8)
    {pathwayMs edgeMs : Nat} (pathwayFits : pathwayMs * msToNsFactor < 2 ^ 64)
    (edgeFits : edgeMs * msToNsFactor < 2 ^ 64) :
    fromBytes (hash ++ (writeTime pathwayMs ++ writeTime edgeMs)) =
      some ⟨hash, UInt64.ofNat (pathwayMs * msToNsFactor), UInt64.ofNat (edgeMs * msToNsFactor),
        hash_length⟩ := by
  have enough : ¬ (hash ++ (writeTime pathwayMs ++ writeTime edgeMs)).length < 8 := by
    rw [List.length_append]
    omega
  have start : (hash ++ (writeTime pathwayMs ++ writeTime edgeMs)).take 8 = hash :=
    List.take_left' hash_length
  have rest : (hash ++ (writeTime pathwayMs ++ writeTime edgeMs)).drop 8 =
      writeTime pathwayMs ++ writeTime edgeMs := List.drop_left' hash_length
  have pathway : decodeZigzagVarint (writeTime pathwayMs ++ writeTime edgeMs) =
      some (zigzagDecode (UInt64.ofNat (zigzag pathwayMs)), writeTime edgeMs) := by
    rw [decodeZigzagVarint, writeTime, decodeUvarint_writeUvarint, Option.map_some]
  have edge : decodeZigzagVarint (writeTime edgeMs) =
      some (zigzagDecode (UInt64.ofNat (zigzag edgeMs)), []) := by
    have read := decodeUvarint_writeUvarint (UInt64.ofNat (zigzag edgeMs)) []
    rw [List.append_nil] at read
    rw [decodeZigzagVarint, writeTime, read, Option.map_some]
  rw [fromBytes, dif_neg enough]
  simp only [rest, pathway, edge, msToNs_writeTime pathwayFits, msToNs_writeTime edgeFits,
    Option.bind_eq_bind, Option.bind_some, start]
  rfl

/-- What the encoder writes the context decoder reads: every `u64` with the bytes
after it, every `i32`, and so every context whose times are in range. -/
theorem varints_read_back :
    (forall (value : UInt64) (rest : List UInt8),
      decodeUvarint (writeUvarint [] value ++ rest) = some (value, rest)) ∧
    (forall value : Int32,
      decodeZigzagVarint (writeZigzag32 [] value) = some (value.toInt64, [])) ∧
    forall (hash : List UInt8) (hash_length : hash.length = 8) (pathwayMs edgeMs : Nat),
      pathwayMs * msToNsFactor < 2 ^ 64 -> edgeMs * msToNsFactor < 2 ^ 64 ->
        fromBytes (hash ++ (writeTime pathwayMs ++ writeTime edgeMs)) =
          some ⟨hash, UInt64.ofNat (pathwayMs * msToNsFactor),
            UInt64.ofNat (edgeMs * msToNsFactor), hash_length⟩ :=
  ⟨decodeUvarint_writeUvarint, decodeZigzagVarint_writeZigzag32,
    fun _ hash_length _ _ pathwayFits edgeFits =>
      fromBytes_written hash_length pathwayFits edgeFits⟩

theorem varints_read_back_context :
    fromBytes ([1, 2, 3, 4, 5, 6, 7, 8] ++ (writeTime 1700000000000 ++ writeTime 1700000000001)) =
      some ⟨[1, 2, 3, 4, 5, 6, 7, 8], 1700000000000000000, 1700000000001000000, rfl⟩ :=
  varints_read_back.2.2 [1, 2, 3, 4, 5, 6, 7, 8] rfl 1700000000000 1700000000001 (by decide)
    (by decide)

end DataStreams
end Bottlecap
