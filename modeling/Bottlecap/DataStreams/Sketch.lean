import Bottlecap.Foundations.Window

namespace Bottlecap
namespace DataStreams

open Foundations

/-!
# The dense store of a sketch

`traces/data_streams/sketch.rs` counts integer keys in a dense list of bins, at
most 2048 of them.  The list starts at the key `offset`, grows in chunks, is
centred around the keys when it grows, and once the keys spread over more than the
limit the lowest bins are collapsed into one.

Keys are `i32`.  An operation on them is written with its exact result and `i32`
says what becomes of it: with overflow checks a result that does not fit ends in a
panic, without them it wraps around.  A subtraction of `usize` values that wraps
gives a slice bound that panics, so it fails in both cases, as every index and
slice bound out of range does.  The weights are of any type with a zero and an
addition.
-/

def binLimit : Int := 2048

def chunkSize : Int := 128

def i32Min : Int := -2147483648

def i32Max : Int := 2147483647

/-- What a build makes of the exact result of an `i32` operation. -/
def i32Result (overflowChecks : Bool) (value : Int) : Option Int :=
  if i32Min <= value ∧ value <= i32Max then some value
  else if overflowChecks then none
  else some (Int.bmod value (2 ^ 32))

/-- `value as usize`, with sign extension. -/
def asUsize (value : Int) : Nat := (value % 2 ^ 64).toNat

section Lists

variable {Weight : Type} [Zero Weight] [Add Weight]

/-- `Vec::resize` with zeros. -/
def resize (bins : List Weight) (length : Nat) : List Weight :=
  bins.take length ++ List.replicate (length - bins.length) 0

/-- `bins[index] += weight` -/
def addAt (bins : List Weight) (index : Nat) (weight : Weight) : Option (List Weight) :=
  bins[index]?.map (fun bin => bins.set index (bin + weight))

/-- The three statements that collapse the bins from `n` to `r` into the last of
them: `bins[n..=r]` is summed up, `bins[n..r]` is cleared, and the sum is added to
`bins[r]`. -/
def mergeBins (bins : List Weight) (n r : Nat) : Option (List Weight) :=
  if n <= r ∧ r < bins.length then
    let s := ((bins.drop n).take (r + 1 - n)).foldl (· + ·) 0
    addAt (bins.take n ++ List.replicate (r - n) 0 ++ bins.drop r) r s
  else none

end Lists

structure CollapsingLowestDenseStore (Weight : Type) where
  bins : List Weight
  count : Weight
  minKey : Int
  maxKey : Int
  offset : Int
  isCollapsed : Bool

namespace CollapsingLowestDenseStore

variable {Weight : Type} [Zero Weight] [Add Weight]

def new : CollapsingLowestDenseStore Weight where
  bins := []
  count := 0
  minKey := i32Max
  maxKey := i32Min
  offset := 0
  isCollapsed := false

omit [Zero Weight] [Add Weight] in
/-- `i32::try_from(self.bins.len()).unwrap_or(i32::MAX)` -/
def length (store : CollapsingLowestDenseStore Weight) : Int :=
  if (store.bins.length : Int) <= i32Max then store.bins.length else i32Max

/-- The number of bins for a range of keys, in `i64`. -/
def getNewLength (newMin newMax : Int) : Nat :=
  let desired := newMax - newMin + 1
  let chunks := (desired + chunkSize - 1).tdiv chunkSize
  (min (chunkSize * chunks) binLimit).toNat

variable (i32 : Int -> Option Int)

/-- The bins after `shift_bins`. -/
def shiftedBins (shift : Int) (bins : List Weight) : Option (List Weight) :=
  if 0 < shift then
    let s := asUsize shift
    if s <= bins.length then
      some (List.replicate s 0 ++ bins.take (bins.length - s))
    else none
  else if shift < 0 then do
    let a := asUsize (<- i32 (-shift))
    if a <= bins.length then
      some (resize (bins.drop a) bins.length)
    else none
  else some bins

def shiftBins (shift : Int) (store : CollapsingLowestDenseStore Weight) :
    Option (CollapsingLowestDenseStore Weight) := do
  let bins <- shiftedBins i32 shift store.bins
  let offset <- i32 (store.offset - shift)
  return { store with bins := bins, offset := offset }

def centerBins (newMin newMax : Int) (store : CollapsingLowestDenseStore Weight) :
    Option (CollapsingLowestDenseStore Weight) := do
  let distance <- i32 (newMax - newMin)
  let span <- i32 (distance + 1)
  let middleKey <- i32 (newMin + span.tdiv 2)
  let middle <- i32 (store.offset + store.length.tdiv 2)
  let shift <- i32 (middle - middleKey)
  store.shiftBins i32 shift

/-- The collapse of `adjust`, up to the two assignments after it. -/
def collapse (collapseMin : Int) (store : CollapsingLowestDenseStore Weight) :
    Option (CollapsingLowestDenseStore Weight) :=
  if store.maxKey <= collapseMin then
    if store.bins.isEmpty then none
    else some { store with
      offset := collapseMin
      minKey := collapseMin
      bins := (store.bins.map (fun _ => 0)).set 0 store.count }
  else do
    let shift <- i32 (store.offset - collapseMin)
    if shift < 0 then
      let n := asUsize (<- i32 (store.minKey - store.offset))
      let r := asUsize (<- i32 (collapseMin - store.offset))
      let bins <- mergeBins store.bins n r
      shiftBins i32 shift { store with bins := bins, minKey := collapseMin }
    else
      shiftBins i32 shift { store with minKey := collapseMin }

def adjust (newMin newMax : Int) (store : CollapsingLowestDenseStore Weight) :
    Option (CollapsingLowestDenseStore Weight) := do
  let distance <- i32 (newMax - newMin)
  let span <- i32 (distance + 1)
  if store.length < span then
    let below <- i32 (newMax - store.length)
    let collapseMin <- i32 (below + 1)
    let collapsed <- store.collapse i32 collapseMin
    return { collapsed with maxKey := newMax, isCollapsed := true }
  else
    let centered <- store.centerBins i32 newMin newMax
    return { centered with minKey := newMin, maxKey := newMax }

/-- The last branch of `extend_range`. -/
def grow (newMin newMax : Int) (store : CollapsingLowestDenseStore Weight) :
    Option (CollapsingLowestDenseStore Weight) :=
  let newLength := getNewLength newMin newMax
  if store.bins.length < newLength then
    adjust i32 newMin newMax { store with bins := resize store.bins newLength }
  else adjust i32 newMin newMax store

def extendRange (key key2 : Int) (store : CollapsingLowestDenseStore Weight) :
    Option (CollapsingLowestDenseStore Weight) :=
  let newMin := min (min key key2) store.minKey
  let newMax := max (max key key2) store.maxKey
  if store.bins.isEmpty then
    adjust i32 newMin newMax { store with
      bins := List.replicate (getNewLength newMin newMax) 0
      offset := newMin }
  else if store.minKey <= newMin then do
    let top <- i32 (store.offset + store.length)
    if newMax < top then
      return { store with minKey := newMin, maxKey := newMax }
    else store.grow i32 newMin newMax
  else store.grow i32 newMin newMax

/-- The index of a key in the range of the store. -/
def indexOf (key : Int) (store : CollapsingLowestDenseStore Weight) :
    Option (Nat × CollapsingLowestDenseStore Weight) := do
  let index <- i32 (key - store.offset)
  return (asUsize index, store)

def getIndex (key : Int) (store : CollapsingLowestDenseStore Weight) :
    Option (Nat × CollapsingLowestDenseStore Weight) :=
  if key < store.minKey then
    if store.isCollapsed then some (0, store)
    else do
      let extended <- store.extendRange i32 key key
      if extended.isCollapsed then return (0, extended)
      else extended.indexOf i32 key
  else if store.maxKey < key then do
    let extended <- store.extendRange i32 key key
    extended.indexOf i32 key
  else store.indexOf i32 key

def add (key : Int) (weight : Weight) (store : CollapsingLowestDenseStore Weight) :
    Option (CollapsingLowestDenseStore Weight) := do
  let (index, extended) <- store.getIndex i32 key
  let bins <- addAt extended.bins index weight
  return { extended with bins := bins, count := extended.count + weight }

end CollapsingLowestDenseStore
end DataStreams
end Bottlecap
