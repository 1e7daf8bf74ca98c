import Mathlib.Algebra.Ring.Nat
import Mathlib.Data.Rat.Defs

namespace Bottlecap
namespace Foundations

/-!
# JSON values

Values as `serde_json` represents them.  A number is an integer of 64 bits of
either sign, or a float; an object lists its members with distinct keys.
-/

inductive Number where
  | posInt (value : UInt64)
  | negInt (value : Int)
  | float (value : Rat)
  deriving DecidableEq

inductive Value where
  | null
  | bool (value : Bool)
  | number (value : Number)
  | string (value : String)
  | array (items : List Value)
  | object (members : List (String × Value))

namespace Value

/-- `Value::get` with a string index. -/
def get (key : String) : Value -> Option Value
  | object members => (members.find? (fun member => member.1 == key)).map Prod.snd
  | _ => none

/-- `Value::as_str` -/
def asStr : Value -> Option String
  | string text => some text
  | _ => none

/-- `Value::as_array` -/
def asArray : Value -> Option (List Value)
  | array items => some items
  | _ => none

/-- `Value::as_object` -/
def asObject : Value -> Option (List (String × Value))
  | object members => some members
  | _ => none

/-- `Value::as_u64` -/
def asU64 : Value -> Option UInt64
  | number (.posInt value) => some value
  | _ => none

/-- A number read as an integer of 16 bits. -/
def asU16 : Value -> Option UInt16
  | number (.posInt value) =>
    if value.toNat < 2 ^ 16 then some (UInt16.ofNat value.toNat) else none
  | _ => none

/-- The fields of a type with derived deserialization: by name in an object,
by position in an array of the right length. -/
def structFields (names : List String) : Value -> Option (String -> Option Value)
  | object members => some (fun name => (object members).get name)
  | array items =>
    if items.length = names.length then some (fun name => items[names.idxOf name]?) else none
  | _ => none

/-- A field of type `Option<T>`: absent and null are both none. -/
def optional {Read : Type} (read : Value -> Option Read) : Option Value -> Option (Option Read)
  | none => some none
  | some null => some none
  | some value => (read value).map some

/-- `map[key] = value` at an object. -/
def setMember (members : List (String × Value)) (key : String) (value : Value) :
    List (String × Value) :=
  if members.any (fun member => member.1 == key) then
    members.map (fun member => if member.1 == key then (key, value) else member)
  else members ++ [(key, value)]

/-- `Map::remove` -/
def remove (key : String) (members : List (String × Value)) : List (String × Value) :=
  members.filter (fun member => member.1 != key)

/-- `Value::as_i64`: integers that fit, never floats. -/
def asI64 : Value -> Option Int
  | number (.posInt value) =>
    if value.toNat < 2 ^ 63 then some (value.toNat : Int) else none
  | number (.negInt value) => some value
  | _ => none

end Value
end Foundations
end Bottlecap
