import Bottlecap.DataStreams.SketchLayout

namespace Bottlecap
namespace DataStreams

open Foundations CollapsingLowestDenseStore

/-!
# The shape of a dense store

What a run of adds leaves in the store is described by its shape: the range of the
bins, and what the lowest bin holds.  Every bin above the lowest one holds the
number of adds of its key.  One inductive predicate lists what the extension of the
range to a key does to the shape, and the functions of the store do nothing else.
-/

/-- The bins of a list of keys: the bin of `lowest` holds `amount`, and those above
it count their keys. -/
def binTable (keys : List Int) (lowest : Int) (amount : Nat) (key : Int) : Nat :=
  if key = lowest then amount else if lowest < key then keys.count key else 0

variable {keys : List Int} {lowest key : Int} {amount : Nat}

theorem binTable_of_lt (low : key < lowest) :
    binTable keys lowest amount key = 0 := by
  rw [binTable, if_neg (by omega), if_neg (by omega)]

theorem binTable_of_gt (high : lowest < key) :
    binTable keys lowest amount key = keys.count key := by
  rw [binTable, if_neg (by omega), if_pos high]

theorem binTable_self :
    binTable keys lowest amount lowest = amount :=
  if_pos rfl

theorem binTable_above {highest : Int} (ordered : lowest <= highest)
    (atMost : forall other, other ∈ keys -> other <= highest) (high : highest < key) :
    binTable keys lowest amount key = 0 := by
  rw [binTable_of_gt (by omega)]
  apply List.count_eq_zero_of_not_mem
  intro member
  have := atMost key member
  omega

/-- With all keys in range the bins are the counts. -/
theorem binTable_eq_count (atLeast : forall key, key ∈ keys -> lowest <= key) :
    binTable keys lowest (keys.count lowest) = fun key => keys.count key := by
  funext key
  rcases Int.lt_trichotomy key lowest with low | same | high
  · rw [binTable_of_lt low]
    symm
    apply List.count_eq_zero_of_not_mem
    intro member
    have := atLeast key member
    omega
  · rw [same, binTable_self]
  · exact binTable_of_gt high

theorem count_concat_of_ne {other : Int} (different : other ≠ key) :
    (keys ++ [key]).count other = keys.count other := by
  rw [List.count_append, List.count_singleton, if_neg, Nat.add_zero]
  rw [beq_iff_eq]
  exact fun same => different same.symm

theorem count_concat_lowest (low : lowest <= key) :
    (keys ++ [key]).count lowest = keys.count lowest + if key <= lowest then 1 else 0 := by
  by_cases same : lowest = key
  · rw [if_pos (by omega), same, List.count_append, List.count_singleton_self]
  · rw [if_neg (by omega), count_concat_of_ne same, Nat.add_zero]

/-- One more key in its bin, or in the lowest one if it has none. -/
theorem binTable_concat (keys : List Int) (lowest : Int) (amount : Nat) (key : Int) :
    binTable (keys ++ [key]) lowest (amount + if key <= lowest then 1 else 0) =
      Function.update (binTable keys lowest amount) (max key lowest)
        (binTable keys lowest amount (max key lowest) + 1) := by
  funext other
  rw [Function.update_apply]
  by_cases low : key <= lowest
  · rw [if_pos low, max_eq_right low, binTable_self]
    rcases Int.lt_trichotomy other lowest with below | same | above
    · rw [if_neg (by omega), binTable_of_lt below, binTable_of_lt below]
    · rw [if_pos same, same, binTable_self]
    · rw [if_neg (by omega), binTable_of_gt above, binTable_of_gt above,
        count_concat_of_ne (by omega)]
  · rw [if_neg low, max_eq_left (by omega), Nat.add_zero, binTable_of_gt (show lowest < key by omega)]
    rcases Int.lt_trichotomy other lowest with below | same | above
    · rw [if_neg (by omega), binTable_of_lt below, binTable_of_lt below]
    · rw [if_neg (by omega), same, binTable_self, binTable_self]
    · rw [binTable_of_gt above]
      by_cases target : other = key
      · rw [if_pos target, target, List.count_append, List.count_singleton_self]
      · rw [if_neg target, binTable_of_gt above, count_concat_of_ne target]

/-- The keys above the lowest bin. -/
def keysAbove (keys : List Int) (lowest : Int) : List Int :=
  keys.filter (fun key => lowest < key)

/-- The keys that have a bin up to the one of `highest`. -/
def keysUpTo (keys : List Int) (highest : Int) : List Int :=
  keys.filter (fun key => key <= highest)

theorem mem_keysAbove :
    key ∈ keysAbove keys lowest <-> key ∈ keys ∧ lowest < key := by
  rw [keysAbove, List.mem_filter, decide_eq_true_iff]

theorem count_keysAbove (keys : List Int) (lowest key : Int) :
    (keysAbove keys lowest).count key = if lowest < key then keys.count key else 0 := by
  by_cases above : lowest < key
  · rw [if_pos above]
    exact List.count_filter (decide_eq_true above)
  · rw [if_neg above]
    apply List.count_eq_zero_of_not_mem
    intro member
    exact above (mem_keysAbove.mp member).2

theorem mem_keysUpTo {highest : Int} :
    key ∈ keysUpTo keys highest <-> key ∈ keys ∧ key <= highest := by
  rw [keysUpTo, List.mem_filter, decide_eq_true_iff]

theorem length_keysAbove_concat (keys : List Int) (lowest key : Int) :
    (keysAbove (keys ++ [key]) lowest).length =
      (keysAbove keys lowest).length + if key <= lowest then 0 else 1 := by
  rw [keysAbove, List.filter_append, List.length_append]
  by_cases low : key <= lowest
  · rw [if_pos low, List.filter_singleton, decide_eq_false (by omega)]
    rfl
  · rw [if_neg low, List.filter_singleton, decide_eq_true (by omega)]
    rfl

/-- With all keys in range every one of them is counted. -/
theorem count_add_length_keysAbove (atLeast : forall key, key ∈ keys -> lowest <= key) :
    keys.count lowest + (keysAbove keys lowest).length = keys.length := by
  induction keys with
  | nil => rfl
  | cons key _ ih =>
    rw [List.forall_mem_cons] at atLeast
    have first := atLeast.1
    have others := ih atLeast.2
    rw [keysAbove] at others ⊢
    rw [List.count_cons, List.filter_cons, List.length_cons]
    by_cases same : key = lowest
    · rw [if_pos (beq_iff_eq.mpr same), if_neg (by rw [decide_eq_true_iff]; omega)]
      omega
    · rw [if_neg (by rw [beq_iff_eq]; exact same), if_pos (by rw [decide_eq_true_iff]; omega),
        List.length_cons]
      omega

theorem length_keysAbove_split (keys : List Int) {middle : Int} (ordered : lowest <= middle) :
    (keysAbove (keysUpTo keys middle) lowest).length + (keysAbove keys middle).length =
      (keysAbove keys lowest).length := by
  induction keys with
  | nil => rfl
  | cons key _ ih =>
    simp only [keysAbove, keysUpTo, List.filter_cons, decide_eq_true_eq] at ih ⊢
    by_cases above : middle < key
    · rw [if_pos above, if_neg (by omega), if_pos (by omega), List.length_cons, List.length_cons]
      omega
    · rw [if_neg above, if_pos (by omega), List.filter_cons]
      by_cases inside : lowest < key
      · rw [if_pos (decide_eq_true inside), if_pos inside, List.length_cons, List.length_cons]
        omega
      · rw [if_neg (by rw [decide_eq_true_iff]; exact inside), if_neg inside]
        exact ih

/-- The sum of the bins in a window that holds the lowest one and all keys above. -/
theorem sum_window_binTable {start : Int} {size : Nat} (low : start <= lowest)
    (high : lowest < start + size) (inside : forall key, key ∈ keys -> key < start + size) :
    (window (binTable keys lowest amount) start size).sum =
      amount + (keysAbove keys lowest).length := by
  have split : binTable keys lowest amount = fun key =>
      (if key = lowest then amount else 0) + (keysAbove keys lowest).count key := by
    funext key
    rw [count_keysAbove, binTable]
    by_cases same : key = lowest
    · rw [if_pos same, if_pos same, if_neg (by omega), Nat.add_zero]
    · rw [if_neg same, if_neg same, Nat.zero_add]
  rw [split, sum_window_add, sum_window_single low high, sum_window_count]
  intro key member
  have parts := mem_keysAbove.mp member
  exact ⟨by omega, inside key parts.1⟩

/-- What the store is like after a run of adds, apart from the bins above the
lowest one. -/
structure StoreShape where
  size : Nat
  minKey : Int
  maxKey : Int
  offset : Int
  isCollapsed : Bool
  amount : Nat

namespace StoreShape

def store (keys : List Int) (shape : StoreShape) : CollapsingLowestDenseStore Nat :=
  laidOut (binTable keys shape.minKey shape.amount) shape.size keys.length shape.minKey shape.maxKey
    shape.offset shape.isCollapsed

/-- The store with the bins grown to the limit. -/
def limitStore (keys : List Int) (shape : StoreShape) : CollapsingLowestDenseStore Nat :=
  laidOut (binTable keys shape.minKey shape.amount) 2048 keys.length shape.minKey shape.maxKey
    shape.offset shape.isCollapsed

/-- One more key in the lowest bin, unless it has a bin of its own. -/
def counted (key : Int) (shape : StoreShape) : StoreShape :=
  { shape with amount := shape.amount + if key <= shape.minKey then 1 else 0 }

/-- The shape belongs to a run of adds of these keys. -/
structure Fits (keys : List Int) (shape : StoreShape) : Prop where
  chunks : shape.size % 128 = 0
  few : shape.size <= 2048
  low : shape.offset <= shape.minKey
  ordered : shape.minKey <= shape.maxKey
  high : shape.maxKey < shape.offset + shape.size
  highest : shape.maxKey ∈ keys
  atMost : forall key, key ∈ keys -> key <= shape.maxKey
  spread : shape.isCollapsed = false ->
    shape.minKey ∈ keys ∧ (forall key, key ∈ keys -> shape.minKey <= key) ∧
      shape.amount = keys.count shape.minKey
  collapsed : shape.isCollapsed = true ->
    shape.size = 2048 ∧ shape.offset = shape.minKey ∧ shape.minKey = shape.maxKey - 2047 ∧
      Exists fun key => key ∈ keys ∧ key < shape.minKey

/-- What `get_index` does to the shape for a key. -/
inductive Extension (keys : List Int) (key : Int) (shape : StoreShape) : StoreShape -> Prop where
  | within (low : shape.minKey <= key) (high : key <= shape.maxKey) : Extension keys key shape shape
  | below (collapsed : shape.isCollapsed = true) (low : key < shape.minKey) :
      Extension keys key shape shape
  | spread (size : Nat) (offset : Int) (uncollapsed : shape.isCollapsed = false)
      (chunks : size % 128 = 0) (few : size <= 2048) (low : offset <= min key shape.minKey)
      (high : max key shape.maxKey < offset + size) :
      Extension keys key shape ⟨size, min key shape.minKey, max key shape.maxKey, offset, false,
        keys.count (min key shape.minKey)⟩
  | collapseBelow (uncollapsed : shape.isCollapsed = false) (beyond : key < shape.maxKey - 2047)
      (room : shape.maxKey - 2047 <= shape.minKey) :
      Extension keys key shape ⟨2048, shape.maxKey - 2047, shape.maxKey, shape.maxKey - 2047, true,
        keys.count (shape.maxKey - 2047)⟩
  | merge (high : shape.maxKey < key) (beyond : shape.minKey < key - 2047)
      (stays : key - 2047 < shape.maxKey) :
      Extension keys key shape ⟨2048, key - 2047, key, key - 2047, true, keys.count (key - 2047) +
        (shape.amount + (keysAbove (keysUpTo keys (key - 2047)) shape.minKey).length)⟩
  | clear (beyond : shape.minKey < key - 2047) (clears : shape.maxKey <= key - 2047) :
      Extension keys key shape ⟨2048, key - 2047, key, key - 2047, true, keys.length⟩

/-- The sum of the bins. -/
def mass (keys : List Int) (shape : StoreShape) : Nat :=
  shape.amount + (keysAbove keys shape.minKey).length

section Fitting

variable {keys : List Int} {shape : StoreShape}

variable (fits : Fits keys shape)

include fits

/-- Where the range of the store lies. -/
theorem Fits.bounds :
    shape.offset <= shape.minKey ∧ shape.minKey <= shape.maxKey ∧
      shape.maxKey < shape.offset + shape.size ∧ shape.size <= 2048 :=
  ⟨fits.low, fits.ordered, fits.high, fits.few⟩

theorem Fits.sum_bins : (shape.store keys).bins.sum = shape.mass keys := by
  have bounds := fits.bounds
  apply sum_window_binTable fits.low (by omega)
  intro key member
  have := fits.atMost key member
  omega

theorem Fits.size_pos : 0 < shape.size := by
  have bounds := fits.bounds
  omega

/-- Outside the range of the store there is nothing. -/
theorem Fits.support (key : Int)
    (outside : key < shape.minKey ∨ shape.maxKey < key) :
    binTable keys shape.minKey shape.amount key = 0 := by
  rcases outside with low | high
  · exact binTable_of_lt low
  · exact binTable_above fits.ordered fits.atMost high

theorem Fits.above (key : Int) (high : shape.offset + shape.size <= key) :
    binTable keys shape.minKey shape.amount key = 0 := by
  have := fits.high
  exact fits.support key (Or.inr (by omega))

/-- Before the collapse a lower start of the range changes no bin. -/
theorem Fits.binTable_eq (uncollapsed : shape.isCollapsed = false)
    {lowest : Int} (low : lowest <= shape.minKey) :
    binTable keys shape.minKey shape.amount = binTable keys lowest (keys.count lowest) := by
  rcases fits.spread uncollapsed with ⟨_, atLeast, amount⟩
  rw [amount, binTable_eq_count atLeast, binTable_eq_count]
  intro key member
  exact Int.le_trans low (atLeast key member)

/-- Before the collapse the sum of the bins is the number of keys. -/
theorem Fits.mass_of_uncollapsed (uncollapsed : shape.isCollapsed = false) :
    shape.mass keys = keys.length := by
  rcases fits.spread uncollapsed with ⟨_, atLeast, amount⟩
  rw [mass, amount, count_add_length_keysAbove atLeast]

/-- Some key lies below every bound above the lowest bin. -/
theorem Fits.exists_lower {limit : Int} (beyond : shape.minKey < limit) :
    Exists fun key => key ∈ keys ∧ key < limit := by
  cases collapsed : shape.isCollapsed with
  | false => exact ⟨shape.minKey, (fits.spread collapsed).1, beyond⟩
  | true =>
    rcases (fits.collapsed collapsed).2.2.2 with ⟨lower, member, below⟩
    exact ⟨lower, member, by omega⟩

end Fitting

section Steps

variable {i32 : Int -> Option Int} {bound reach : Int} (exact_ : ExactUpTo i32 bound)
  (wide : 8192 <= reach) (room : 2 * reach <= bound + 1) {keys : List Int} {shape : StoreShape}
  {key : Int}

/-- Keys so small that the store computes with them exactly. -/
def InReach (reach key : Int) : Prop := -reach < key ∧ key < reach

variable (fits : Fits keys shape) (small : forall key, key ∈ keys -> InReach reach key)
  (smallKey : InReach reach key)

include fits

include small in
theorem Fits.inReach :
    InReach reach shape.minKey ∧ InReach reach shape.maxKey := by
  have highest := small _ fits.highest
  have ordered := fits.ordered
  refine ⟨?_, highest⟩
  cases collapsed : shape.isCollapsed with
  | false => exact small _ (fits.spread collapsed).1
  | true =>
    rcases (fits.collapsed collapsed).2.2.2 with ⟨lower, member, below⟩
    have := (small lower member).1
    exact ⟨by omega, Int.lt_of_le_of_lt ordered highest.2⟩

include exact_ wide room small smallKey

/-- The range grows and there is room for it. -/
theorem grow_store_spread
    (uncollapsed : shape.isCollapsed = false)
    (span : max key shape.maxKey - min key shape.minKey + 1 <= 2048) :
    Exists fun next => Extension keys key shape next ∧
      (shape.store keys).grow i32 (min key shape.minKey) (max key shape.maxKey) =
        some (next.store keys) := by
  rcases fits.inReach small with ⟨smallMin, smallMax⟩
  rw [InReach] at smallKey smallMin smallMax
  have low := fits.low
  have high := fits.high
  have ordered := fits.ordered
  have grows : Exists fun newSize => RoomFor (min key shape.minKey) (max key shape.maxKey) newSize ∧
      (shape.store keys).grow i32 (min key shape.minKey) (max key shape.maxKey) =
        some (laidOut (binTable keys shape.minKey shape.amount) newSize keys.length
          (min key shape.minKey) (max key shape.maxKey)
          (centred newSize (min key shape.minKey) (max key shape.maxKey)) shape.isCollapsed) :=
    grow_laidOut_center exact_ fits.few (by omega) (by omega) ordered (by omega) ⟨low, high⟩
      fits.support fits.chunks span
  rcases grows with ⟨newSize, wanted, grown⟩
  have chunks := wanted.chunks
  have covers := centred_covers (by omega) (wanted.covers span)
  refine ⟨_, .spread newSize (centred newSize (min key shape.minKey)
    (max key shape.maxKey)) uncollapsed wanted.chunks wanted.few covers.1 covers.2, ?_⟩
  rw [grown, fits.binTable_eq uncollapsed (Int.min_le_right key shape.minKey), uncollapsed]
  rfl

/-- A range that is too wide: the store is grown to the limit and collapsed. -/
theorem grow_store_collapse
    (span : 2048 < max key shape.maxKey - min key shape.minKey + 1) :
    (shape.store keys).grow i32 (min key shape.minKey) (max key shape.maxKey) =
      ((shape.limitStore keys).collapse i32 (max key shape.maxKey - 2047)).map
        (fun collapsed => { collapsed with
          maxKey := max key shape.maxKey, isCollapsed := true }) := by
  rcases fits.inReach small with ⟨smallMin, smallMax⟩
  rw [InReach] at smallKey smallMin smallMax
  have high := fits.high
  exact grow_laidOut_collapse exact_ fits.chunks fits.few span (by omega) (by omega) (by omega)
    fits.above

omit wide room small smallKey in
/-- A key so low that the bins cannot reach it: the store keeps its bins. -/
theorem collapse_store_below (uncollapsed : shape.isCollapsed = false)
    (lowEnd : -bound + 8192 <= shape.maxKey - 2047) (highEnd : shape.maxKey - 2047 <= bound - 8192) :
    (shape.limitStore keys).collapse i32 (shape.maxKey - 2047) =
      some (laidOut (binTable keys (shape.maxKey - 2047) (keys.count (shape.maxKey - 2047))) 2048
        keys.length (shape.maxKey - 2047) shape.maxKey (shape.maxKey - 2047) shape.isCollapsed) := by
  have bounds := fits.bounds
  rw [<- fits.binTable_eq uncollapsed (by omega)]
  apply collapse_laidOut_low exact_ (Nat.le_refl 2048) (by omega) (by omega) (by omega) lowEnd highEnd
  intro key _ before
  exact fits.support key (Or.inl (by omega))

omit exact_ wide room small smallKey in
/-- A key so high that no bin stays. -/
theorem collapse_store_clear (clears : shape.maxKey <= key - 2047) :
    (shape.limitStore keys).collapse i32 (key - 2047) =
      some (laidOut (binTable keys (key - 2047) keys.length) 2048 keys.length (key - 2047)
        shape.maxKey (key - 2047) shape.isCollapsed) := by
  have single : (fun other : Int => if other = key - 2047 then keys.length else 0) =
      binTable keys (key - 2047) keys.length := by
    funext other
    rw [binTable]
    by_cases lowest : other = key - 2047
    · rw [if_pos lowest, if_pos lowest]
    · rw [if_neg lowest, if_neg lowest]
      by_cases above : key - 2047 < other
      · rw [if_pos above]
        symm
        apply List.count_eq_zero_of_not_mem
        intro member
        have := fits.atMost other member
        omega
      · rw [if_neg above]
  rw [<- single]
  exact collapse_laidOut_clear (by decide) clears

omit exact_ wide room fits small smallKey in
/-- The bins from the lowest one to the first that stays. -/
theorem sum_window_merged {newMin : Int} (beyond : shape.minKey < newMin) :
    (window (binTable keys shape.minKey shape.amount) shape.minKey
        (newMin - shape.minKey + 1).toNat).sum =
      shape.amount + (keysAbove (keysUpTo keys newMin) shape.minKey).length := by
  have restricted : window (binTable keys shape.minKey shape.amount) shape.minKey
        (newMin - shape.minKey + 1).toNat =
      window (binTable (keysUpTo keys newMin) shape.minKey shape.amount) shape.minKey
        (newMin - shape.minKey + 1).toNat := by
    apply window_congr
    intro key from_ until_
    have inside : key <= newMin := by omega
    have counts : (keysUpTo keys newMin).count key = keys.count key :=
      List.count_filter (decide_eq_true inside)
    rw [binTable, binTable, counts]
  rw [restricted]
  apply sum_window_binTable (Int.le_refl _) (by omega)
  intro key member
  have := (mem_keysUpTo.mp member).2
  omega

omit wide room small smallKey in
/-- A key so high that the lowest bins do not stay. -/
theorem collapse_store_merge (beyond : shape.minKey < key - 2047)
    (stays : key - 2047 < shape.maxKey) (lowEnd : -bound + 8192 <= key - 2047)
    (highEnd : key - 2047 <= bound - 8192) :
    (shape.limitStore keys).collapse i32 (key - 2047) =
      some (laidOut (binTable keys (key - 2047) (keys.count (key - 2047) +
        (shape.amount + (keysAbove (keysUpTo keys (key - 2047)) shape.minKey).length))) 2048
        keys.length (key - 2047) shape.maxKey (key - 2047) shape.isCollapsed) := by
  have bounds := fits.bounds
  have collapsed : (shape.limitStore keys).collapse i32 (key - 2047) = _ :=
    collapse_laidOut_high exact_ (Nat.le_refl 2048) stays fits.low beyond (by omega) lowEnd highEnd
      (fun other from_ => fits.support other (Or.inr (by omega)))
  have same : window (fun other => if other = key - 2047 then
        binTable keys shape.minKey shape.amount (key - 2047) +
          (window (binTable keys shape.minKey shape.amount) shape.minKey
            (key - 2047 - shape.minKey + 1).toNat).sum
        else binTable keys shape.minKey shape.amount other) (key - 2047) 2048 =
      window (binTable keys (key - 2047) (keys.count (key - 2047) +
        (shape.amount + (keysAbove (keysUpTo keys (key - 2047)) shape.minKey).length)))
        (key - 2047) 2048 := by
    apply window_congr
    intro other from_ _
    rw [sum_window_merged beyond, binTable_of_gt beyond]
    by_cases lowest : other = key - 2047
    · rw [if_pos lowest, lowest, binTable_self]
    · rw [if_neg lowest, binTable_of_gt (by omega), binTable_of_gt (by omega)]
  rw [collapsed, laidOut, laidOut, same]

omit exact_ wide room small smallKey in
theorem Fits.bins_isEmpty : (shape.store keys).bins.isEmpty = false := by
  rw [List.isEmpty_eq_false_iff, <- List.length_pos_iff, store, laidOut, length_window]
  exact fits.size_pos

omit exact_ wide room small smallKey in
theorem extendRange_store_below (low : key < shape.minKey) :
    (shape.store keys).extendRange i32 key key =
      (shape.store keys).grow i32 (min key shape.minKey) (max key shape.maxKey) := by
  have moves : ¬ shape.minKey <= min key shape.minKey := by omega
  simp only [extendRange, fits.bins_isEmpty, min_self, max_self]
  exact if_neg moves

omit smallKey in
/-- A key above the range: the bins may reach it already. -/
theorem extendRange_store_above (high : shape.maxKey < key) :
    (shape.store keys).extendRange i32 key key =
      if key < shape.offset + shape.size then
        some (store keys { shape with maxKey := key })
      else (shape.store keys).grow i32 (min key shape.minKey) (max key shape.maxKey) := by
  rcases fits.inReach small with ⟨smallMin, smallMax⟩
  rw [InReach] at smallMin smallMax
  have bounds := fits.bounds
  have newMin : min key shape.minKey = shape.minKey := min_eq_right (by omega)
  have newMax : max key shape.maxKey = key := max_eq_left (by omega)
  have top : i32 (shape.offset + shape.size) = some (shape.offset + shape.size) :=
    exact_ _ (by omega) (by omega)
  have starts : (shape.store keys).minKey = shape.minKey := rfl
  have ends : (shape.store keys).maxKey = shape.maxKey := rfl
  have begins : (shape.store keys).offset = shape.offset := rfl
  have length_eq : (shape.store keys).length = shape.size := length_laidOut fits.few
  simp only [extendRange, fits.bins_isEmpty, Bool.false_eq_true, if_false, min_self, max_self, starts,
    ends, begins, length_eq, newMin, newMax, le_refl, if_true, top, Option.bind_eq_bind,
    Option.bind_some]
  rfl

/-- The range of the store is extended to a key outside of it. -/
theorem extendRange_store
    (outside : (key < shape.minKey ∧ shape.isCollapsed = false) ∨ shape.maxKey < key) :
    Exists fun next => Extension keys key shape next ∧
      (shape.store keys).extendRange i32 key key = some (next.store keys) := by
  have reaches := fits.inReach small
  have smallKeys := smallKey
  rw [InReach, InReach] at reaches
  rw [InReach] at smallKeys
  have bounds := fits.bounds
  rcases outside with ⟨below, uncollapsed⟩ | above
  · rw [extendRange_store_below fits below]
    by_cases span : max key shape.maxKey - min key shape.minKey + 1 <= 2048
    · exact grow_store_spread exact_ wide room fits small smallKey uncollapsed span
    · have newMax : max key shape.maxKey = shape.maxKey := max_eq_right (by omega)
      refine ⟨_, .collapseBelow uncollapsed (by omega) (by omega), ?_⟩
      rw [grow_store_collapse exact_ wide room fits small smallKey (by omega), newMax,
        collapse_store_below exact_ fits uncollapsed (by omega) (by omega), store,
        Option.map_some]
      simp only [laidOut]
  · rw [extendRange_store_above exact_ wide room fits small above]
    have newMin : min key shape.minKey = shape.minKey := min_eq_right (by omega)
    have newMax : max key shape.maxKey = key := max_eq_left (by omega)
    have uncollapsed_of : key < shape.offset + shape.size ∨ key - shape.minKey + 1 <= 2048 ->
        shape.isCollapsed = false := by
      intro near
      apply Bool.eq_false_iff.mpr
      intro collapsed
      have := fits.collapsed collapsed
      omega
    by_cases reached : key < shape.offset + shape.size
    · have uncollapsed := uncollapsed_of (Or.inl reached)
      rw [if_pos reached]
      refine ⟨_, .spread shape.size shape.offset uncollapsed fits.chunks fits.few (by omega)
        (by omega), ?_⟩
      rw [newMin, newMax, <- (fits.spread uncollapsed).2.2, <- uncollapsed]
    · rw [if_neg reached]
      by_cases span : max key shape.maxKey - min key shape.minKey + 1 <= 2048
      · exact grow_store_spread exact_ wide room fits small smallKey
          (uncollapsed_of (by omega)) span
      · rw [grow_store_collapse exact_ wide room fits small smallKey (by omega), newMax]
        by_cases clears : shape.maxKey <= key - 2047
        · refine ⟨_, .clear (by omega) clears, ?_⟩
          rw [collapse_store_clear fits clears, store,
            Option.map_some]
          simp only [laidOut]
        · refine ⟨_, .merge above (by omega) (by omega), ?_⟩
          rw [collapse_store_merge exact_ fits (by omega) (by omega) (by omega) (by omega), store,
            Option.map_some]
          simp only [laidOut]

end Steps

variable {keys : List Int}

/-- A collapsed store ends at the highest key. -/
theorem fits_collapsed {top : Int} {amount : Nat} (highest : top ∈ keys)
    (atMost : forall key, key ∈ keys -> key <= top)
    (lower : Exists fun key => key ∈ keys ∧ key < top - 2047) :
    Fits keys ⟨2048, top - 2047, top, top - 2047, true, amount⟩ where
  chunks := show 2048 % 128 = 0 by decide
  few := Nat.le_refl 2048
  low := Int.le_refl _
  ordered := show top - 2047 <= top by omega
  high := show top < top - 2047 + (2048 : Nat) by omega
  highest := highest
  atMost := atMost
  spread := fun uncollapsed => absurd uncollapsed.symm Bool.false_ne_true
  collapsed := fun _ => ⟨rfl, rfl, rfl, lower⟩

/-- After an extension and the count of the key the shape belongs to one more key. -/
theorem Extension.fits {key : Int} {shape next : StoreShape}
    (extension : Extension keys key shape next) (before : Fits keys shape) :
    Fits (keys ++ [key]) (next.counted key) := by
  have kept : forall other, other ∈ keys -> other ∈ keys ++ [key] :=
    fun other member => List.mem_append_left [key] member
  have added : key ∈ keys ++ [key] := List.mem_append_right keys List.mem_cons_self
  have split : forall other, other ∈ keys ++ [key] -> other ∈ keys ∨ other = key :=
    fun other member => (List.mem_append.mp member).imp_right List.mem_singleton.mp
  have ordered := before.ordered
  have atMost : forall other, other ∈ keys ++ [key] -> other <= max key shape.maxKey := by
    intro other member
    rcases split other member with old | same
    · have := before.atMost other old
      omega
    · omega
  have stays : key <= shape.maxKey -> (shape.isCollapsed = false -> shape.minKey <= key) ->
      Fits (keys ++ [key]) (shape.counted key) := by
    intro high low
    refine ⟨before.chunks, before.few, before.low, ordered, before.high, kept _ before.highest,
      max_eq_right high ▸ atMost, ?_, ?_⟩
    · intro uncollapsed
      rcases before.spread uncollapsed with ⟨lowest, atLeast, amount⟩
      refine ⟨kept _ lowest, ?_, ?_⟩
      · intro other member
        rcases split other member with old | same
        · exact atLeast other old
        · exact same ▸ low uncollapsed
      · change shape.amount + _ = (keys ++ [key]).count shape.minKey
        rw [count_concat_lowest (low uncollapsed), amount]
    · intro collapsed
      rcases before.collapsed collapsed with ⟨size, offset, range, lower, member, below⟩
      exact ⟨size, offset, range, lower, kept lower member, below⟩
  have raises : shape.minKey < key - 2047 -> shape.maxKey <= key -> forall amount,
      Fits (keys ++ [key]) ⟨2048, key - 2047, key, key - 2047, true, amount⟩ := by
    intro beyond high amount
    rcases before.exists_lower beyond with ⟨lower, member, below⟩
    rw [max_eq_left high] at atMost
    exact fits_collapsed added atMost ⟨lower, kept lower member, below⟩
  cases extension with
  | within low high => exact stays high (fun _ => low)
  | below collapsed =>
    refine stays (by omega) (fun uncollapsed => ?_)
    exact absurd (uncollapsed.symm.trans collapsed) Bool.false_ne_true
  | spread _ _ uncollapsed chunks few low high =>
    rcases before.spread uncollapsed with ⟨lowest, atLeast, amount⟩
    have newHighest : max key shape.maxKey ∈ keys ++ [key] := by
      rcases max_choice key shape.maxKey with same | same
      · rw [same]
        exact added
      · rw [same]
        exact kept _ before.highest
    have newLowest : min key shape.minKey ∈ keys ++ [key] := by
      rcases min_choice key shape.minKey with same | same
      · rw [same]
        exact added
      · rw [same]
        exact kept _ lowest
    have newRange : min key shape.minKey <= max key shape.maxKey := by omega
    refine ⟨chunks, few, low, newRange, high, newHighest, atMost, ?_, ?_⟩
    · intro _
      refine ⟨newLowest, ?_, (count_concat_lowest (min_le_left key shape.minKey)).symm⟩
      intro other member
      change min key shape.minKey <= other
      rcases split other member with old | same
      · have := atLeast other old
        omega
      · omega
    · intro collapsed
      exact absurd collapsed Bool.false_ne_true
  | collapseBelow _ beyond =>
    have top : max key shape.maxKey = shape.maxKey := max_eq_right (by omega)
    exact fits_collapsed (kept _ before.highest) (top ▸ atMost) ⟨key, added, beyond⟩
  | merge _ beyond => exact raises beyond (by omega) _
  | clear beyond => exact raises beyond (by omega) _

/-- A collapse for a low key leaves the key below the range. -/
theorem Extension.below_range {key : Int} {shape next : StoreShape}
    (extension : Extension keys key shape next) (low : key < shape.minKey)
    (collapsed : next.isCollapsed = true) : key < next.minKey := by
  cases extension with
  | within | below => exact low
  | spread => exact absurd collapsed Bool.false_ne_true
  | collapseBelow _ beyond => exact beyond
  | merge => omega
  | clear => omega

/-- A high key is in the range. -/
theorem Extension.in_range {key : Int} {shape next : StoreShape}
    (extension : Extension keys key shape next) (fits : Fits keys shape)
    (high : shape.maxKey < key) :
    next.minKey <= key := by
  have ordered := fits.ordered
  cases extension with
  | within low => exact low
  | below => omega
  | spread => exact min_le_left key shape.minKey
  | collapseBelow => omega
  | merge | clear => exact Int.sub_le_self key (by decide)

end StoreShape

end DataStreams
end Bottlecap
