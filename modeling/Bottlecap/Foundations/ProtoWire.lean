import Bottlecap.Foundations.Varint
import Mathlib.Algebra.Order.BigOperators.Group.List

namespace Bottlecap
namespace Foundations

/-!
# The wire format of protocol buffers

A message is a sequence of fields.  A field begins with a varint that holds its
number and says how its value is written: as a varint, in eight or four bytes with
the lowest first, or as a length and that many bytes.  The readers accept nothing
else: no field number 0, no varint that exceeds 64 bits, no content that is cut off,
and none of the groups that the format no longer has.  A sequence of well-formed
fields is read as it was written, with no bytes left.
-/

/-! ## Numbers of a fixed width -/

/-- The number that bytes stand for, the lowest first. -/
def littleEndian (bytes : List UInt8) : Nat :=
  bytes.foldr (fun byte value => byte.toNat + 256 * value) 0

def littleEndianBytes : Nat -> Nat -> List UInt8
  | 0, _ => []
  | count + 1, value => UInt8.ofNat (value % 256) :: littleEndianBytes count (value / 256)

theorem length_littleEndianBytes (count value : Nat) :
    (littleEndianBytes count value).length = count := by
  induction count generalizing value with
  | zero => rfl
  | succ _ ih => rw [littleEndianBytes, List.length_cons, ih]

theorem littleEndian_littleEndianBytes {count value : Nat} (small : value < 256 ^ count) :
    littleEndian (littleEndianBytes count value) = value := by
  induction count generalizing value with
  | zero =>
    exact (Nat.lt_one_iff.mp small).symm
  | succ count ih =>
    have rest : value / 256 < 256 ^ count := by
      exact Nat.div_lt_of_lt_mul (Nat.mul_comm _ 256 ▸ small)
    change (UInt8.ofNat (value % 256)).toNat + 256 * littleEndian (littleEndianBytes count _) = _
    rw [ih rest, toNat_group (Nat.mod_lt value (by decide))]
    exact Nat.mod_add_div value 256

/-! ## Fields -/

inductive WireValue where
  | varint (value : Nat)
  | fixed64 (bits : Nat)
  | len (content : List UInt8)
  | fixed32 (bits : Nat)
  deriving DecidableEq

structure WireField where
  number : Nat
  value : WireValue
  deriving DecidableEq

def WireValue.wireType : WireValue -> Nat
  | varint _ => 0
  | fixed64 _ => 1
  | len _ => 2
  | fixed32 _ => 5

def WireValue.bytes : WireValue -> List UInt8
  | varint value => uvarintBytes value
  | fixed64 bits => littleEndianBytes 8 bits
  | len content => uvarintBytes content.length ++ content
  | fixed32 bits => littleEndianBytes 4 bits

def WireField.bytes (field : WireField) : List UInt8 :=
  uvarintBytes (8 * field.number + field.value.wireType) ++ field.value.bytes

/-- Values that the format can hold. -/
def WireValue.WellFormed : WireValue -> Prop
  | varint value => value < 2 ^ 64
  | fixed64 bits => bits < 2 ^ 64
  | len content => content.length < 2 ^ 64
  | fixed32 bits => bits < 2 ^ 32

structure WireField.WellFormed (field : WireField) : Prop where
  positive : 0 < field.number
  small : field.number < 2 ^ 29
  value : field.value.WellFormed

theorem WireField.wellFormed_mk {number : Nat} {value : WireValue} (positive : 0 < number)
    (small : number < 2 ^ 29) (wellFormed : value.WellFormed) :
    WireField.WellFormed ⟨number, value⟩ :=
  ⟨positive, small, wellFormed⟩

/-! ## Reading -/

def readVarint (bytes : List UInt8) : Option (Nat × List UInt8) :=
  (splitUvarint bytes).bind (fun found =>
    if found.1.length <= 10 ∧ uvarintValue found.1 < 2 ^ 64 then
      some (uvarintValue found.1, found.2)
    else none)

def readFixed (count : Nat) (bytes : List UInt8) : Option (Nat × List UInt8) :=
  if count <= bytes.length then some (littleEndian (bytes.take count), bytes.drop count) else none

def readLen (bytes : List UInt8) : Option (List UInt8 × List UInt8) :=
  (readVarint bytes).bind (fun length =>
    if length.1 <= length.2.length then some (length.2.take length.1, length.2.drop length.1)
    else none)

def readValue : Nat -> List UInt8 -> Option (WireValue × List UInt8)
  | 0, bytes => (readVarint bytes).map (fun read => (.varint read.1, read.2))
  | 1, bytes => (readFixed 8 bytes).map (fun read => (.fixed64 read.1, read.2))
  | 2, bytes => (readLen bytes).map (fun read => (.len read.1, read.2))
  | 5, bytes => (readFixed 4 bytes).map (fun read => (.fixed32 read.1, read.2))
  | _, _ => none

def readField (bytes : List UInt8) : Option (WireField × List UInt8) :=
  (readVarint bytes).bind (fun tag =>
    if 8 <= tag.1 ∧ tag.1 < 2 ^ 32 then
      (readValue (tag.1 % 8) tag.2).map (fun read => (⟨tag.1 / 8, read.1⟩, read.2))
    else none)

/-- All fields of a message, with no bytes left. -/
def readFields (bytes : List UInt8) : Option (List WireField) :=
  if bytes = [] then some []
  else
    (readField bytes).bind (fun read =>
      if _shorter : read.2.length < bytes.length then
        (readFields read.2).map (fun fields => read.1 :: fields)
      else none)
termination_by bytes.length

/-- The values of the fields with a number, in their order. -/
def valuesOf (number : Nat) (fields : List WireField) : List WireValue :=
  fields.filterMap (fun field => if field.number = number then some field.value else none)

/-! ## Round trips -/

theorem length_uvarintBytes_le {value : Nat} (small : value < 2 ^ 64) :
    (uvarintBytes value).length <= 10 := by
  apply uvarintBytes_length
  calc value < 2 ^ 64 := small
    _ <= 128 ^ (9 + 1) := by decide

variable (rest : List UInt8)

theorem readVarint_uvarintBytes {value : Nat} (small : value < 2 ^ 64) :
    readVarint (uvarintBytes value ++ rest) = some (value, rest) := by
  have few := length_uvarintBytes_le small
  rw [readVarint, splitUvarint_uvarintBytes, Option.bind_some, uvarintValue_uvarintBytes,
    if_pos ⟨few, small⟩]

theorem readFixed_littleEndianBytes {count value : Nat} (small : value < 256 ^ count) :
    readFixed count (littleEndianBytes count value ++ rest) = some (value, rest) := by
  have length_eq := length_littleEndianBytes count value
  have enough : count <= (littleEndianBytes count value ++ rest).length := by
    rw [List.length_append, length_eq]
    exact Nat.le_add_right count rest.length
  rw [readFixed, if_pos enough, List.take_left' length_eq, List.drop_left' length_eq,
    littleEndian_littleEndianBytes small]

theorem readLen_bytes {content : List UInt8} (small : content.length < 2 ^ 64) :
    readLen (uvarintBytes content.length ++ content ++ rest) = some (content, rest) := by
  have enough : content.length <= (content ++ rest).length := by
    rw [List.length_append]
    exact Nat.le_add_right content.length rest.length
  rw [readLen, List.append_assoc, readVarint_uvarintBytes _ small, Option.bind_some, if_pos enough,
    List.take_left' rfl, List.drop_left' rfl]

theorem readValue_bytes {value : WireValue} (wellFormed : value.WellFormed) :
    readValue value.wireType (value.bytes ++ rest) = some (value, rest) := by
  cases value with
  | varint =>
    rw [WireValue.wireType, WireValue.bytes, readValue, readVarint_uvarintBytes _ wellFormed,
      Option.map_some]
  | fixed64 bits | fixed32 bits =>
    rw [WireValue.wireType, WireValue.bytes, readValue, readFixed_littleEndianBytes _ wellFormed,
      Option.map_some]
  | len =>
    rw [WireValue.wireType, WireValue.bytes, readValue, readLen_bytes _ wellFormed, Option.map_some]

theorem WireValue.wireType_lt (value : WireValue) : value.wireType < 8 := by
  cases value with
  | varint => exact show 0 < 8 by decide
  | fixed64 _ => exact show 1 < 8 by decide
  | len => exact show 2 < 8 by decide
  | fixed32 _ => exact show 5 < 8 by decide

theorem readField_bytes {field : WireField} (wellFormed : field.WellFormed) (rest : List UInt8) :
    readField (field.bytes ++ rest) = some (field, rest) := by
  have wire := field.value.wireType_lt
  have positive := wellFormed.positive
  have small := wellFormed.small
  have number : (8 * field.number + field.value.wireType) / 8 = field.number := by omega
  have wireType : (8 * field.number + field.value.wireType) % 8 = field.value.wireType := by omega
  have tag : 8 <= 8 * field.number + field.value.wireType ∧
      8 * field.number + field.value.wireType < 2 ^ 32 := by omega
  rw [readField, WireField.bytes, List.append_assoc, readVarint_uvarintBytes _ (by omega),
    Option.bind_some, if_pos tag, wireType, readValue_bytes _ wellFormed.value, Option.map_some, number]

/-- The bytes that a value takes as they are. -/
def WireValue.contentLength : WireValue -> Nat
  | varint _ => 0
  | fixed64 _ => 0
  | len content => content.length
  | fixed32 _ => 0

theorem WireValue.length_bytes_le {value : WireValue} (wellFormed : value.WellFormed) :
    value.bytes.length <= 10 + value.contentLength := by
  cases value with
  | varint => exact length_uvarintBytes_le wellFormed
  | fixed64 bits | fixed32 bits =>
    rw [bytes, length_littleEndianBytes, contentLength]
    decide
  | len content =>
    have count := length_uvarintBytes_le wellFormed
    rw [bytes, List.length_append]
    exact Nat.add_le_add_right count content.length

theorem WireField.length_bytes_le {field : WireField} (wellFormed : field.WellFormed) :
    field.bytes.length <= 20 + field.value.contentLength := by
  have small := wellFormed.small
  have wire := field.value.wireType_lt
  have tag : (uvarintBytes (8 * field.number + field.value.wireType)).length <= 10 :=
    length_uvarintBytes_le (by omega)
  have value := WireValue.length_bytes_le wellFormed.value
  rw [WireField.bytes, List.length_append]
  omega

theorem length_fields_le {fields : List WireField}
    (wellFormed : forall field, field ∈ fields -> field.WellFormed) :
    (fields.flatMap WireField.bytes).length <=
      (fields.map (fun field => 20 + field.value.contentLength)).sum := by
  rw [List.length_flatMap]
  exact List.sum_le_sum (fun field member => WireField.length_bytes_le (wellFormed field member))

theorem WireField.bytes_ne_nil (field : WireField) : field.bytes ≠ [] :=
  List.append_ne_nil_of_left_ne_nil (uvarintBytes_ne_nil _) _

/-- A sequence of well-formed fields is read as it was written. -/
theorem readFields_bytes {fields : List WireField}
    (wellFormed : forall field, field ∈ fields -> field.WellFormed) :
    readFields (fields.flatMap WireField.bytes) = some fields := by
  induction fields with
  | nil =>
    rw [readFields]
    rfl
  | cons field fields ih =>
    rw [List.forall_mem_cons] at wellFormed
    have first := wellFormed.1
    have nonempty : field.bytes ++ fields.flatMap WireField.bytes ≠ [] :=
      List.append_ne_nil_of_left_ne_nil field.bytes_ne_nil _
    have shorter : (fields.flatMap WireField.bytes).length <
        (field.bytes ++ fields.flatMap WireField.bytes).length := by
      have := List.length_pos_iff.mpr field.bytes_ne_nil
      rw [List.length_append]
      omega
    rw [List.flatMap_cons, readFields, if_neg nonempty, readField_bytes first, Option.bind_some,
      dif_pos shorter, ih wellFormed.2,
      Option.map_some]

/-! ## Packed numbers -/

/-- A packed sequence of numbers of eight bytes each. -/
def readPacked64 : List UInt8 -> Option (List Nat)
  | [] => some []
  | b0 :: b1 :: b2 :: b3 :: b4 :: b5 :: b6 :: b7 :: rest =>
    (readPacked64 rest).map (fun values =>
      littleEndian [b0, b1, b2, b3, b4, b5, b6, b7] :: values)
  | _ => none

theorem readPacked64_bytes {values : List Nat} (small : forall value, value ∈ values -> value < 2 ^ 64) :
    readPacked64 (values.flatMap (littleEndianBytes 8)) = some values := by
  induction values with
  | nil => rfl
  | cons value values ih =>
    rw [List.forall_mem_cons] at small
    have first := small.1
    have others := ih small.2
    change (readPacked64 (values.flatMap (littleEndianBytes 8))).map (fun later =>
      littleEndian (littleEndianBytes 8 value) :: later) = _
    rw [others, Option.map_some, littleEndian_littleEndianBytes first]

end Foundations
end Bottlecap
