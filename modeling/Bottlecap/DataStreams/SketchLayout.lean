import Bottlecap.DataStreams.Sketch

namespace Bottlecap
namespace DataStreams

open Foundations

/-!
# What the store does to its layout

A store whose bins are the window of a table is determined by the table and a few
numbers.  Each function of the store is an equation between such stores: shifting
moves the window, centring moves it around the keys, and a collapse replaces the
table.  The equations hold for any `i32` arithmetic that is exact on the results
that occur.
-/

/-- Results of an absolute value up to `bound` are exact. -/
def ExactUpTo (i32 : Int -> Option Int) (bound : Int) : Prop :=
  forall value, -bound <= value -> value <= bound -> i32 value = some value

theorem asUsize_of_nonneg {value : Int} (nonneg : 0 <= value) (small : value < 2 ^ 64) :
    asUsize value = value.toNat := by
  rw [asUsize, Int.emod_eq_of_lt nonneg small]

namespace CollapsingLowestDenseStore

section Generic

variable {Weight : Type} [Zero Weight] [Add Weight]

/-- A store whose bins are the window of a table. -/
def laidOut (table : Int -> Weight) (size : Nat) (count : Weight) (minKey maxKey offset : Int)
    (isCollapsed : Bool) : CollapsingLowestDenseStore Weight where
  bins := window table offset size
  count := count
  minKey := minKey
  maxKey := maxKey
  offset := offset
  isCollapsed := isCollapsed

/-- Where the window of `size` bins begins that is centred around a range. -/
def centred (size : Nat) (newMin newMax : Int) : Int :=
  newMin + (newMax - newMin + 1) / 2 - size / 2

variable {i32 : Int -> Option Int} {bound : Int} (exact_ : ExactUpTo i32 bound)
  {table : Int -> Weight} {size : Nat} {count : Weight} {minKey maxKey offset : Int}
  {isCollapsed : Bool}

variable {newMin newMax : Int}

omit [Zero Weight] [Add Weight] in
theorem length_laidOut (few : size <= 2048) :
    (laidOut table size count minKey maxKey offset isCollapsed).length = size := by
  have fits : ((window table offset size).length : Int) <= i32Max := by
    rw [length_window, i32Max]
    omega
  rw [length, laidOut, if_pos fits, length_window]

include exact_

omit [Add Weight] in
theorem shiftedBins_window {shift : Int} (few : size <= 2048) (wide : 2048 <= bound)
    (atMost : shift <= size) (atLeast : -(size : Int) <= shift)
    (below : forall key, offset - shift <= key -> key < offset -> table key = 0)
    (above : forall key, offset + size <= key -> key < offset + size - shift -> table key = 0) :
    shiftedBins i32 shift (window table offset size) =
      some (window table (offset - shift) size) := by
  rw [shiftedBins]
  by_cases up : 0 < shift
  · have place : offset - shift = offset - (shift.toNat : Nat) := by omega
    have enough : shift.toNat <= size := by omega
    simp (disch := omega) only [if_pos up, asUsize_of_nonneg, length_window, if_pos enough]
    rw [place]
    exact congrArg some (shift_window_down enough (fun key low high => below key (by omega) high))
  · rw [if_neg up]
    by_cases down : shift < 0
    · have place : offset - shift = offset + ((-shift).toNat : Nat) := by omega
      have enough : (-shift).toNat <= size := by omega
      simp (disch := omega) only [if_pos down, exact_ _, Option.bind_eq_bind, Option.bind_some,
        asUsize_of_nonneg, length_window, if_pos enough]
      rw [place, <- shift_window_up enough (fun key low high => above key low (by omega)), resize,
        List.take_of_length_le (by rw [List.length_drop, length_window]; omega), List.length_drop,
        length_window, Nat.sub_sub_self enough]
    · have still : shift = 0 := by omega
      rw [if_neg down, still, Int.sub_zero]

omit [Add Weight] in
theorem shiftBins_laidOut {shift : Int} (few : size <= 2048) (wide : 2048 <= bound)
    (atMost : shift <= size) (atLeast : -(size : Int) <= shift)
    (lowEnd : -bound <= offset - shift) (highEnd : offset - shift <= bound)
    (below : forall key, offset - shift <= key -> key < offset -> table key = 0)
    (above : forall key, offset + size <= key -> key < offset + size - shift -> table key = 0) :
    (laidOut table size count minKey maxKey offset isCollapsed).shiftBins i32 shift =
      some (laidOut table size count minKey maxKey (offset - shift) isCollapsed) := by
  have moved := shiftedBins_window exact_ few wide atMost atLeast below above
  have start : i32 (offset - shift) = some (offset - shift) := exact_ _ lowEnd highEnd
  rw [shiftBins]
  simp only [laidOut, moved, start]
  rfl

omit exact_ in
theorem centred_covers (even : size % 2 = 0) (room : newMax - newMin + 1 <= size) :
    centred size newMin newMax <= newMin ∧ newMax < centred size newMin newMax + size := by
  rw [centred]
  omega

/-- A range that is too wide collapses the lowest bins. -/
theorem adjust_laidOut_collapse (few : size <= 2048) (beyond : size < newMax - newMin + 1)
    (fits : newMax - newMin + 1 <= bound) (lowEnd : -bound + 8192 <= newMax)
    (highEnd : newMax <= bound - 8192) :
    (laidOut table size count minKey maxKey offset isCollapsed).adjust i32 newMin newMax =
      ((laidOut table size count minKey maxKey offset isCollapsed).collapse i32
        (newMax - size + 1)).map
        (fun collapsed => { collapsed with maxKey := newMax, isCollapsed := true }) := by
  simp (disch := omega) only [adjust, length_laidOut few, exact_ _, Option.bind_eq_bind,
    Option.bind_some, if_pos beyond]
  cases collapse i32 (newMax - size + 1)
      (laidOut table size count minKey maxKey offset isCollapsed) with
  | none => rfl
  | some => rfl

omit exact_ in
/-- All keys are below the bins that stay: one bin gets the whole count. -/
theorem collapse_laidOut_clear {collapseMin : Int} (positive : 0 < size)
    (clears : maxKey <= collapseMin) :
    (laidOut table size count minKey maxKey offset isCollapsed).collapse i32 collapseMin =
      some (laidOut (fun key => if key = collapseMin then count else 0) size count collapseMin maxKey
        collapseMin isCollapsed) := by
  have filled : (window table offset size).isEmpty = false := by
    rw [List.isEmpty_eq_false_iff, <- List.length_pos_iff, length_window]
    exact positive
  have zeros : (window table offset size).map (fun _ => (0 : Weight)) =
      window (fun _ => 0) collapseMin size := by
    rw [window_eq_replicate (fun _ _ _ => rfl), List.map_const', length_window]
  have single : (fun key => if key = collapseMin then count else 0) =
      Function.update (fun _ : Int => (0 : Weight)) (collapseMin + (0 : Nat)) count := by
    funext key
    rw [Nat.cast_zero, add_zero, Function.update_apply]
  simp only [collapse, laidOut, if_pos clears, filled, Bool.false_eq_true, if_false, zeros,
    set_window, single]

/-- The bins that stay begin at or before the first bin: nothing is merged. -/
theorem collapse_laidOut_low {collapseMin : Int} (few : size <= 2048) (stays : collapseMin < maxKey)
    (before : collapseMin <= offset) (close : offset - collapseMin <= size)
    (lowEnd : -bound + 8192 <= collapseMin) (highEnd : collapseMin <= bound - 8192)
    (below : forall key, collapseMin <= key -> key < offset -> table key = 0) :
    (laidOut table size count minKey maxKey offset isCollapsed).collapse i32 collapseMin =
      some (laidOut table size count collapseMin maxKey collapseMin isCollapsed) := by
  have target : offset - (offset - collapseMin) = collapseMin := by omega
  have moved : (laidOut table size count collapseMin maxKey offset isCollapsed).shiftBins i32
      (offset - collapseMin) = some (laidOut table size count collapseMin maxKey
        (offset - (offset - collapseMin)) isCollapsed) :=
    shiftBins_laidOut exact_ few (by omega) (by omega) (by omega) (by omega) (by omega)
      (fun key from_ => below key (by omega)) (fun key from_ until_ => by omega)
  have up : ¬ offset - collapseMin < 0 := by omega
  rw [target] at moved
  have behind : ¬ (laidOut table size count minKey maxKey offset isCollapsed).maxKey <= collapseMin :=
    Int.not_le.mpr stays
  rw [collapse, if_neg behind]
  change (i32 (offset - collapseMin)).bind _ = _
  rw [exact_ _ (by omega) (by omega), Option.bind_some, if_neg up]
  exact moved

omit [Add Weight] exact_ in
theorem resize_window {newSize : Nat} (more : size <= newSize)
    (above : forall key, offset + size <= key -> table key = 0) :
    resize (window table offset size) newSize = window table offset newSize := by
  have split : newSize = size + (newSize - size) := by omega
  rw [resize, List.take_of_length_le (by rw [length_window]; exact more), length_window]
  conv => rhs; rw [split]
  exact window_append_zeros _ (fun key from_ _ => above key from_)

/-- What the requested number of bins is: whole chunks up to the limit, that cover
the range unless it exceeds the limit. -/
structure RoomFor (newMin newMax : Int) (newSize : Nat) : Prop where
  chunks : newSize % 128 = 0
  few : newSize <= 2048
  positive : 0 < newSize
  covers : newMax - newMin + 1 <= 2048 -> newMax - newMin + 1 <= newSize
  limit : 2048 < newMax - newMin + 1 -> newSize = 2048

omit exact_ in
theorem getNewLength_roomFor (ordered : newMin <= newMax) :
    RoomFor newMin newMax (getNewLength newMin newMax) := by
  have division : (newMax - newMin + 1 + 128 - 1).tdiv 128 = (newMax - newMin + 1 + 128 - 1) / 128 :=
    Int.tdiv_eq_ediv_of_nonneg (by omega)
  have length_eq : getNewLength newMin newMax =
      (min (128 * ((newMax - newMin + 1 + 128 - 1) / 128)) 2048).toNat := by
    rw [<- division]
    rfl
  constructor <;> omega

omit exact_ in
/-- Growing never drops bins and leaves room for the range. -/
theorem grow_laidOut (chunks : size % 128 = 0) (few : size <= 2048) (ordered : newMin <= newMax)
    (above : forall key, offset + size <= key -> table key = 0) :
    Exists fun newSize => size <= newSize ∧ RoomFor newMin newMax newSize ∧
      (laidOut table size count minKey maxKey offset isCollapsed).grow i32 newMin newMax =
        (laidOut table newSize count minKey maxKey offset isCollapsed).adjust i32 newMin newMax := by
  have wanted := getNewLength_roomFor ordered
  by_cases less : size < getNewLength newMin newMax
  · have resized := resize_window (Nat.le_of_lt less) above
    refine ⟨getNewLength newMin newMax, Nat.le_of_lt less, wanted, ?_⟩
    simp only [grow, laidOut, length_window, if_pos less, resized]
  · refine ⟨size, Nat.le_refl size, ⟨chunks, few, ?_, ?_, ?_⟩, ?_⟩
    · have := wanted.positive
      omega
    · intro small
      have := wanted.covers small
      omega
    · intro large
      have := wanted.limit large
      omega
    · simp only [grow, laidOut, length_window, if_neg less]

theorem grow_laidOut_collapse (chunks : size % 128 = 0) (few : size <= 2048)
    (span : 2048 < newMax - newMin + 1) (fits : newMax - newMin + 1 <= bound)
    (lowEnd : -bound + 8192 <= newMax) (highEnd : newMax <= bound - 8192)
    (above : forall key, offset + size <= key -> table key = 0) :
    (laidOut table size count minKey maxKey offset isCollapsed).grow i32 newMin newMax =
      ((laidOut table 2048 count minKey maxKey offset isCollapsed).collapse i32
        (newMax - 2047)).map
        (fun collapsed => { collapsed with maxKey := newMax, isCollapsed := true }) := by
  rcases grow_laidOut chunks few (show newMin <= newMax by omega) above with
    ⟨newSize, more, wanted, grown⟩
  have limit := wanted.limit span
  have collapseMin : newMax - 2047 = newMax - ((2048 : Nat) : Int) + 1 := by omega
  rw [grown, limit, collapseMin]
  exact adjust_laidOut_collapse exact_ (Nat.le_refl 2048) span fits lowEnd highEnd

section Centring

/-! A range that holds all keys from `low` to `high`, outside of which the table is zero. -/

variable {low high : Int} (few : size <= 2048) (lowEnd : -bound + 8192 <= newMin)
  (highEnd : newMax <= bound - 8192) (ordered : low <= high)
  (inRange : newMin <= low ∧ high <= newMax) (inWindow : offset <= low ∧ high < offset + size)
  (support : forall key, key < low ∨ high < key -> table key = 0)

include few lowEnd highEnd ordered inRange inWindow support

omit [Add Weight] in
theorem centerBins_laidOut (even : size % 2 = 0) (room : newMax - newMin + 1 <= size) :
    (laidOut table size count minKey maxKey offset isCollapsed).centerBins i32 newMin newMax =
      some (laidOut table size count minKey maxKey (centred size newMin newMax) isCollapsed) := by
  have spanHalf : (newMax - newMin + 1).tdiv 2 = (newMax - newMin + 1) / 2 :=
    Int.tdiv_eq_ediv_of_nonneg (by omega)
  have sizeHalf : (size : Int).tdiv 2 = (size : Int) / 2 := Int.tdiv_eq_ediv_of_nonneg (by omega)
  let shift := offset + (size : Int) / 2 - (newMin + (newMax - newMin + 1) / 2)
  have target : offset - shift = centred size newMin newMax := by
    simp only [centred]
    omega
  have moved : (laidOut table size count minKey maxKey offset isCollapsed).shiftBins i32 shift =
      some (laidOut table size count minKey maxKey (offset - shift) isCollapsed) :=
    shiftBins_laidOut exact_ few (by omega) (by omega) (by omega) (by omega) (by omega)
      (fun key _ before => support key (by omega)) (fun key behind _ => support key (by omega))
  rw [target] at moved
  have start : (laidOut table size count minKey maxKey offset isCollapsed).offset = offset := rfl
  simp (disch := omega) only [centerBins, length_laidOut few, exact_ _, Option.bind_eq_bind,
    Option.bind_some, spanHalf, sizeHalf, start]
  exact moved

/-- A range that the bins have room for. -/
theorem adjust_laidOut_center (even : size % 2 = 0) (room : newMax - newMin + 1 <= size) :
    (laidOut table size count minKey maxKey offset isCollapsed).adjust i32 newMin newMax =
      some (laidOut table size count newMin newMax (centred size newMin newMax) isCollapsed) := by
  have stays : ¬ (size : Int) < newMax - newMin + 1 := by omega
  simp (disch := omega) only [adjust, length_laidOut few, exact_ _, Option.bind_eq_bind,
    Option.bind_some, if_neg stays,
    centerBins_laidOut exact_ few lowEnd highEnd ordered inRange inWindow support even room]
  rfl

theorem grow_laidOut_center (chunks : size % 128 = 0) (span : newMax - newMin + 1 <= 2048) :
    Exists fun newSize => RoomFor newMin newMax newSize ∧
      (laidOut table size count minKey maxKey offset isCollapsed).grow i32 newMin newMax =
        some (laidOut table newSize count newMin newMax (centred newSize newMin newMax)
          isCollapsed) := by
  have above : forall key, offset + size <= key -> table key = 0 :=
    fun key from_ => support key (by omega)
  rcases grow_laidOut chunks few (show newMin <= newMax by omega) above with
    ⟨newSize, more, wanted, grown⟩
  have wantedChunks := wanted.chunks
  refine ⟨newSize, wanted, grown.trans ?_⟩
  exact adjust_laidOut_center exact_ wanted.few lowEnd highEnd ordered inRange (by omega) support
    (by omega) (wanted.covers span)

end Centring

end Generic

section Merging

variable {i32 : Int -> Option Int} {bound : Int} {table : Int -> Nat} {size : Nat} {count : Nat}
  {minKey maxKey offset : Int} {isCollapsed : Bool}

/-- The bin that others are merged into is counted twice: it is part of the sum
that is added to it. -/
theorem mergeBins_window {start : Int} {n r : Nat} (ordered : n <= r) (inside : r < size) :
    mergeBins (window table start size) n r = some (window (Function.update
      (fun key => if start + n <= key ∧ key < start + r then 0 else table key) (start + r)
      (table (start + r) + (window table (start + n) (r + 1 - n)).sum)) start size) := by
  have guard_ : n <= r ∧ r < (window table start size).length := by
    rw [length_window]
    exact ⟨ordered, inside⟩
  have sums : (((window table start size).drop n).take (r + 1 - n)).foldl (· + ·) 0 =
      (window table (start + n) (r + 1 - n)).sum := by
    rw [drop_window table start (by omega), take_window table _ (by omega), List.sum_eq_foldl]
  have kept : ¬ (start + (n : Int) <= start + r ∧ start + (r : Int) < start + r) := by omega
  rw [mergeBins, if_pos guard_]
  simp only [sums]
  rw [clear_window ordered (Nat.le_of_lt inside), addAt, getElem?_window _ _ inside,
    Option.map_some, set_window, if_neg kept]

/-- The bins that stay begin behind the first bin: the lower ones are merged into
the first that stays. -/
theorem collapse_laidOut_high (exact_ : ExactUpTo i32 bound) {collapseMin : Int}
    (few : size <= 2048) (stays : collapseMin < maxKey) (low : offset <= minKey)
    (behind : minKey < collapseMin) (inside : collapseMin < offset + size)
    (lowEnd : -bound + 8192 <= collapseMin) (highEnd : collapseMin <= bound - 8192)
    (above : forall key, offset + size <= key -> table key = 0) :
    (laidOut table size count minKey maxKey offset isCollapsed).collapse i32 collapseMin =
      some (laidOut (fun key => if key = collapseMin then
        table collapseMin + (window table minKey (collapseMin - minKey + 1).toNat).sum
        else table key) size count collapseMin maxKey collapseMin isCollapsed) := by
  have firstKey : offset + ((minKey - offset).toNat : Nat) = minKey := by omega
  have lastKey : offset + ((collapseMin - offset).toNat : Nat) = collapseMin := by omega
  have width : (collapseMin - offset).toNat + 1 - (minKey - offset).toNat =
      (collapseMin - minKey + 1).toNat := by omega
  have merged : mergeBins (window table offset size) (minKey - offset).toNat
      (collapseMin - offset).toNat = _ := mergeBins_window (by omega) (by omega)
  rw [firstKey, lastKey, width] at merged
  -- Below the bins that stay the window after the shift has nothing.
  let total := table collapseMin + (window table minKey (collapseMin - minKey + 1).toNat).sum
  let cleared := Function.update
    (fun key => if minKey <= key ∧ key < collapseMin then 0 else table key) collapseMin total
  have cleared_apply : forall key, cleared key = if key = collapseMin then total else
      if minKey <= key ∧ key < collapseMin then 0 else table key :=
    fun key => Function.update_apply _ collapseMin total key
  have target : offset - (offset - collapseMin) = collapseMin := by omega
  have moved : (laidOut cleared size count collapseMin maxKey offset isCollapsed).shiftBins i32
      (offset - collapseMin) = some (laidOut cleared size count collapseMin maxKey
        (offset - (offset - collapseMin)) isCollapsed) := by
    apply shiftBins_laidOut exact_ few (by omega) (by omega) (by omega) (by omega) (by omega)
    · intro key from_ until_
      omega
    · intro key from_ _
      rw [cleared_apply, if_neg (by omega), if_neg (by omega)]
      exact above key from_
  have same : window cleared collapseMin size = window (fun key => if key = collapseMin then total
      else table key) collapseMin size := by
    apply window_congr
    intro key from_ _
    rw [cleared_apply]
    by_cases lowest : key = collapseMin
    · rw [if_pos lowest, if_pos lowest]
    · rw [if_neg lowest, if_neg lowest, if_neg (by omega)]
  rw [target, laidOut, laidOut, same] at moved
  have down : offset - collapseMin < 0 := by omega
  have behindMin : ¬ (laidOut table size count minKey maxKey offset isCollapsed).maxKey <=
      collapseMin := Int.not_le.mpr stays
  rw [collapse, if_neg behindMin]
  simp (disch := omega) only [laidOut, exact_ _, asUsize_of_nonneg, merged, Option.bind_eq_bind,
    Option.bind_some, if_pos down]
  exact moved

end Merging

end CollapsingLowestDenseStore
end DataStreams
end Bottlecap
