import Bottlecap.DataStreams.SketchShape
import Bottlecap.Foundations.Approximation
import Bottlecap.Foundations.Lists

namespace Bottlecap
namespace DataStreams

open Foundations CollapsingLowestDenseStore

/-!
# Runs of adds on the dense store

Adding keys one by one keeps the shape of the store fitted to the keys.  So the
range of the store and every bin above the lowest one are what the keys say.  The
lowest bin is not: a collapse that merges bins into one that holds keys of its own
counts those keys twice.
-/

/-- The add of a highest key that collapses bins into one that holds keys of its
own, with keys above it. -/
structure Doubles (earlier : List Int) (key : Int) : Prop where
  highest : forall other, other ∈ earlier -> other < key
  collapses : Exists fun other => other ∈ earlier ∧ other < key - 2047
  own : key - 2047 ∈ earlier
  stays : Exists fun other => other ∈ earlier ∧ key - 2047 < other

/-- The add of a key so high that all bins collapse into one, which is set to the
number of keys. -/
structure Clears (earlier : List Int) (key : Int) : Prop where
  all : forall other, other ∈ earlier -> other <= key - 2047
  collapses : Exists fun other => other ∈ earlier ∧ other < key - 2047

/-- Every add that counts keys twice is followed by one that clears the bins. -/
def Restored (keys : List Int) : Prop :=
  forall earlier key later, keys = earlier ++ key :: later -> Doubles earlier key ->
    Exists fun between => Exists fun other => Exists fun rest =>
      later = between ++ other :: rest ∧ Clears (earlier ++ key :: between) other

theorem Clears.not_doubles {earlier : List Int} {key : Int} (clears : Clears earlier key) :
    ¬ Doubles earlier key := by
  intro doubles
  rcases doubles.stays with ⟨other, member, above⟩
  have := clears.all other member
  omega

theorem restored_nil : Restored [] := by
  intro earlier key later split
  exact absurd split (List.append_ne_nil_of_right_ne_nil earlier (List.cons_ne_nil key later)).symm

/-- What the last key has to do with it. -/
theorem restored_concat_iff (keys : List Int) (key : Int) :
    Restored (keys ++ [key]) <-> Clears keys key ∨ (Restored keys ∧ ¬ Doubles keys key) := by
  constructor
  · intro restored
    by_cases clears : Clears keys key
    · exact Or.inl clears
    · refine Or.inr ⟨?_, ?_⟩
      · intro earlier middle later split doubles
        have extended : keys ++ [key] = earlier ++ middle :: (later ++ [key]) := by
          rw [split, List.append_assoc, List.cons_append]
        rcases restored earlier middle (later ++ [key]) extended doubles with
          ⟨between, other, rest, same, clearing⟩
        rcases concat_eq_split same with ⟨rfl, rfl, _⟩ | ⟨front, _, before⟩
        · -- The last key would be the one that clears.
          exact absurd (split ▸ clearing) clears
        · exact ⟨between, other, front, before, clearing⟩
      · intro doubles
        rcases restored keys key [] rfl doubles with ⟨between, other, rest, same, _⟩
        exact absurd same
          (List.append_ne_nil_of_right_ne_nil between (List.cons_ne_nil other rest)).symm
  · intro condition earlier middle later split doubles
    rcases concat_eq_split split with ⟨rfl, rfl, _⟩ | ⟨front, rfl, same⟩
    · -- The last key is the one that doubles.
      rcases condition with clears | ⟨_, single⟩
      · exact absurd doubles clears.not_doubles
      · exact absurd doubles single
    · rcases condition with clears | ⟨restored, _⟩
      · exact ⟨front, key, [], rfl, same ▸ clears⟩
      · rcases restored earlier middle front same doubles with
          ⟨between, other, rest, rfl, clearing⟩
        refine ⟨between, other, rest ++ [key], ?_, clearing⟩
        rw [List.append_assoc, List.cons_append]

/-- What one add does to the sum of the bins. -/
structure MassStep (keys : List Int) (key : Int) (before after_ : Nat) : Prop where
  clears : Clears keys key -> after_ = keys.length + 1
  doubles : Doubles keys key -> after_ = before + keys.count (key - 2047) + 1
  keeps : ¬ Clears keys key -> ¬ Doubles keys key -> after_ = before + 1

namespace StoreShape

section Index

variable {i32 : Int -> Option Int} {bound reach : Int} (exact_ : ExactUpTo i32 bound)
  (wide : 8192 <= reach) (room : 2 * reach <= bound + 1) {keys : List Int} {shape next : StoreShape}
  {key : Int}

/-- Where the count of a key goes. -/
def index (key : Int) (shape : StoreShape) : Nat :=
  (max key shape.minKey - shape.offset).toNat

include exact_ in
theorem indexOf_store (wide : 2048 <= bound) (after_ : Fits (keys ++ [key]) (next.counted key))
    (low : next.minKey <= key) :
    (next.store keys).indexOf i32 key = some (next.index key, next.store keys) := by
  have starts : next.offset <= next.minKey := after_.low
  have inside : next.maxKey < next.offset + next.size := after_.high
  have few : next.size <= 2048 := after_.few
  have atMost : key <= next.maxKey := after_.atMost key (List.mem_append_right keys List.mem_cons_self)
  have distance : i32 (key - next.offset) = some (key - next.offset) :=
    exact_ _ (by omega) (by omega)
  have position : asUsize (key - next.offset) = next.index key := by
    rw [index, max_eq_left low]
    exact asUsize_of_nonneg (by omega) (by omega)
  rw [indexOf]
  change (i32 (key - next.offset)).bind _ = _
  rw [distance, Option.bind_some, position]
  rfl

/-- The bin of a key before the range is the first one. -/
theorem index_below (after_ : Fits (keys ++ [key]) (next.counted key))
    (collapsed : next.isCollapsed = true) (low : key < next.minKey) : next.index key = 0 := by
  have starts : next.offset = next.minKey := (after_.collapsed collapsed).2.1
  rw [index, starts, max_eq_right (Int.le_of_lt low), Int.sub_self]
  rfl

include exact_ wide room in
/-- `get_index` extends the shape and finds the bin of the key. -/
theorem getIndex_store (fits : Fits keys shape)
    (small : forall key, key ∈ keys -> InReach reach key) (smallKey : InReach reach key) :
    Exists fun next => Extension keys key shape next ∧
      (shape.store keys).getIndex i32 key = some (next.index key, next.store keys) := by
  have large : 2048 <= bound := by omega
  have starts : (shape.store keys).minKey = shape.minKey := rfl
  have ends : (shape.store keys).maxKey = shape.maxKey := rfl
  have flag : (shape.store keys).isCollapsed = shape.isCollapsed := rfl
  by_cases low : key < shape.minKey
  · cases collapsed : shape.isCollapsed with
    | true =>
      have extension : Extension keys key shape shape := .below collapsed low
      refine ⟨shape, extension, ?_⟩
      rw [getIndex, starts, if_pos low, flag, if_pos collapsed,
        index_below (extension.fits fits) collapsed low]
    | false =>
      rcases extendRange_store exact_ wide room fits small smallKey (Or.inl ⟨low, collapsed⟩) with
        ⟨next, extension, extended⟩
      have after_ := extension.fits fits
      refine ⟨next, extension, ?_⟩
      rw [getIndex, starts, if_pos low, flag, collapsed, if_neg Bool.false_ne_true, extended]
      change (if next.isCollapsed then some (0, next.store keys)
        else (next.store keys).indexOf i32 key) = _
      cases nextCollapsed : next.isCollapsed with
      | true =>
        rw [if_pos rfl, index_below after_ nextCollapsed (extension.below_range low nextCollapsed)]
      | false =>
        have lowest := ((after_.spread nextCollapsed).2.1 key
          (List.mem_append_right keys List.mem_cons_self))
        rw [if_neg Bool.false_ne_true]
        exact indexOf_store exact_ large after_ lowest
  · by_cases high : shape.maxKey < key
    · rcases extendRange_store exact_ wide room fits small smallKey (Or.inr high) with
        ⟨next, extension, extended⟩
      refine ⟨next, extension, ?_⟩
      rw [getIndex, starts, if_neg low, ends, if_pos high, extended]
      exact indexOf_store exact_ large (extension.fits fits) (extension.in_range fits high)
    · have extension : Extension keys key shape shape := .within (by omega) (by omega)
      refine ⟨shape, extension, ?_⟩
      rw [getIndex, starts, if_neg low, ends, if_neg high]
      exact indexOf_store exact_ large (extension.fits fits) (by omega)

/-- The count of the key completes the step. -/
theorem add_of_getIndex {before : CollapsingLowestDenseStore Nat}
    (found : before.getIndex i32 key = some (next.index key, next.store keys))
    (after_ : Fits (keys ++ [key]) (next.counted key)) :
    before.add i32 key 1 = some ((next.counted key).store (keys ++ [key])) := by
  have starts : next.offset <= next.minKey := after_.low
  have ordered : next.minKey <= next.maxKey := after_.ordered
  have inside : next.maxKey < next.offset + next.size := after_.high
  have atMost : key <= next.maxKey := after_.atMost key (List.mem_append_right keys List.mem_cons_self)
  have position : next.index key < next.size := by
    rw [index]
    omega
  have place : next.offset + (next.index key : Nat) = max key next.minKey := by
    rw [index]
    omega
  have bins : addAt (next.store keys).bins (next.index key) 1 =
      some ((next.counted key).store (keys ++ [key])).bins := by
    change addAt (window _ next.offset next.size) _ 1 = some (window
      (binTable (keys ++ [key]) next.minKey (next.amount + if key <= next.minKey then 1 else 0))
      next.offset next.size)
    rw [addAt, getElem?_window _ _ position, Option.map_some, set_window, place, binTable_concat]
  have total : (keys ++ [key]).length = keys.length + 1 := List.length_append
  rw [add, found]
  simp only [Option.bind_eq_bind, Option.bind_some, bins]
  rw [store, store, total]
  rfl

include exact_ wide room in
/-- The step lemma: an add extends the shape and counts the key. -/
theorem add_store (fits : Fits keys shape)
    (small : forall key, key ∈ keys -> InReach reach key) (smallKey : InReach reach key) :
    Exists fun next => Extension keys key shape next ∧
      (shape.store keys).add i32 key 1 = some ((next.counted key).store (keys ++ [key])) := by
  rcases getIndex_store exact_ wide room fits small smallKey with ⟨next, extension, found⟩
  exact ⟨next, extension, add_of_getIndex found (extension.fits fits)⟩

/-- The shape of the first key, before it is counted. -/
def first (key : Int) : StoreShape := ⟨128, key, key, key - 64, false, 0⟩

theorem fits_first (key : Int) : Fits [key] ((first key).counted key) where
  chunks := show 128 % 128 = 0 by decide
  few := show 128 <= 2048 by decide
  low := show key - 64 <= key by omega
  ordered := Int.le_refl key
  high := show key < key - 64 + (128 : Nat) by omega
  highest := List.mem_cons_self
  atMost := fun other member => Int.le_of_eq (List.mem_singleton.mp member)
  spread := by
    intro _
    refine ⟨List.mem_cons_self, fun other member => Int.le_of_eq (List.mem_singleton.mp member).symm,
      ?_⟩
    change 0 + (if key <= key then 1 else 0) = [key].count key
    rw [if_pos (Int.le_refl key), List.count_singleton_self]
  collapsed := fun collapsed => absurd collapsed Bool.false_ne_true

include exact_ wide room in
theorem extendRange_new (smallKey : InReach reach key) (low : i32Min <= key) (high : key <= i32Max) :
    (new : CollapsingLowestDenseStore Nat).extendRange i32 key key =
      some ((first key).store []) := by
  rw [InReach] at smallKey
  have length_eq : getNewLength key key = 128 := by
    rw [getNewLength, Int.sub_self]
    rfl
  have zeros : List.replicate 128 0 = window (fun _ : Int => (0 : Nat)) key 128 :=
    (window_eq_replicate (fun _ _ _ => rfl)).symm
  have adjusted : (laidOut (fun _ : Int => (0 : Nat)) 128 0 i32Max i32Min key false).adjust i32 key
      key = some (laidOut (fun _ : Int => (0 : Nat)) 128 0 key key (centred 128 key key) false) :=
    adjust_laidOut_center exact_ (by decide) (by omega) (by omega) (Int.le_refl key) (by omega)
      (by omega) (fun _ _ => rfl) (by decide) (by omega)
  have start : centred 128 key key = key - 64 := by
    rw [centred]
    omega
  have table : binTable [] key 0 = fun _ : Int => 0 := by
    funext other
    rw [binTable, List.count_nil, ite_self, ite_self]
  have newMin : min key i32Max = key := min_eq_left high
  have newMax : max key i32Min = key := max_eq_left low
  simp only [extendRange, new, min_self, max_self, newMin, newMax, List.isEmpty_nil, if_true,
    length_eq, zeros]
  rw [first, store, table, <- start]
  exact adjusted

include exact_ wide room in
/-- The first add. -/
theorem add_new (smallKey : InReach reach key) (low : i32Min <= key) (high : key <= i32Max) :
    (new : CollapsingLowestDenseStore Nat).add i32 key 1 =
      some (((first key).counted key).store [key]) := by
  have extended := extendRange_new exact_ wide room smallKey low high
  have counted : Fits ([] ++ [key]) ((first key).counted key) := fits_first key
  have found : ((first key).store []).indexOf i32 key =
      some ((first key).index key, (first key).store []) :=
    indexOf_store exact_ (by omega) counted (Int.le_refl key)
  apply add_of_getIndex _ counted
  have starts : (new : CollapsingLowestDenseStore Nat).minKey = i32Max := rfl
  have ends : (new : CollapsingLowestDenseStore Nat).maxKey = i32Min := rfl
  rw [getIndex, starts, ends, extended]
  by_cases below : key < i32Max
  · rw [if_pos below]
    exact found
  · have above : i32Min < key := by
      rw [i32Max] at below
      rw [i32Min]
      omega
    rw [if_neg below, if_pos above]
    exact found

end Index

section Mass

variable {keys : List Int} {key : Int} {shape next : StoreShape}

theorem mass_mk {size : Nat} {lowest top offset : Int} {flag : Bool} {amount : Nat} :
    mass keys ⟨size, lowest, top, offset, flag, amount⟩ =
      amount + (keysAbove keys lowest).length :=
  rfl

theorem mass_counted : (shape.counted key).mass (keys ++ [key]) = shape.mass keys + 1 := by
  change shape.amount + (if key <= shape.minKey then 1 else 0) +
    (keysAbove (keys ++ [key]) shape.minKey).length = _
  rw [length_keysAbove_concat, mass]
  by_cases low : key <= shape.minKey
  · rw [if_pos low, if_pos low]
    omega
  · rw [if_neg low, if_neg low]
    omega

/-- A key that is not the new highest one moves no count. -/
theorem massStep_of_le {before : Nat} {highest : Int} (member : highest ∈ keys)
    (low : key <= highest) : MassStep keys key before (before + 1) where
  clears := by
    intro clears
    have := clears.all highest member
    omega
  doubles := by
    intro doubles
    have := doubles.highest highest member
    omega
  keeps := fun _ _ => rfl

theorem Extension.massStep (extension : Extension keys key shape next) (fits : Fits keys shape) :
    MassStep keys key (shape.mass keys) ((next.counted key).mass (keys ++ [key])) := by
  rw [mass_counted]
  have ordered := fits.ordered
  cases extension with
  | within _ high => exact massStep_of_le fits.highest high
  | below => exact massStep_of_le fits.highest (by omega)
  | spread _ _ uncollapsed =>
    rcases fits.spread uncollapsed with ⟨lowest, atLeast, amount⟩
    have total : keys.count (min key shape.minKey) +
        (keysAbove keys (min key shape.minKey)).length = keys.length := by
      apply count_add_length_keysAbove
      intro other member
      have := atLeast other member
      omega
    have close : forall other, other ∈ keys -> ¬ other < key - 2047 := by
      intro other member
      have := atLeast other member
      omega
    rw [fits.mass_of_uncollapsed uncollapsed]
    refine ⟨?_, ?_, ?_⟩
    · intro clears
      rcases clears.collapses with ⟨other, member, below⟩
      exact absurd below (close other member)
    · intro doubles
      rcases doubles.collapses with ⟨other, member, below⟩
      exact absurd below (close other member)
    · intro _ _
      exact congrArg (· + 1) total
  | collapseBelow uncollapsed =>
    have total : keys.count (shape.maxKey - 2047) +
        (keysAbove keys (shape.maxKey - 2047)).length = keys.length := by
      apply count_add_length_keysAbove
      intro other member
      have := (fits.spread uncollapsed).2.1 other member
      omega
    rw [fits.mass_of_uncollapsed uncollapsed, mass_mk, total]
    exact massStep_of_le fits.highest (by omega)
  | merge _ beyond stays =>
    have split := length_keysAbove_split keys (Int.le_of_lt beyond)
    have total : mass keys ⟨2048, key - 2047, key, key - 2047, true, keys.count (key - 2047) +
        (shape.amount + (keysAbove (keysUpTo keys (key - 2047)) shape.minKey).length)⟩ =
        shape.mass keys + keys.count (key - 2047) := by
      rw [mass_mk, mass]
      omega
    rw [total]
    refine ⟨?_, fun _ => rfl, ?_⟩
    · intro clears
      have := clears.all _ fits.highest
      omega
    · intro _ single
      rw [List.count_eq_zero_of_not_mem]
      intro own
      apply single
      refine ⟨?_, fits.exists_lower beyond, own, shape.maxKey, fits.highest, stays⟩
      intro other member
      have := fits.atMost other member
      omega
  | clear beyond =>
    have clearing : Clears keys key := by
      refine ⟨?_, fits.exists_lower beyond⟩
      intro other member
      have := fits.atMost other member
      omega
    have none_ : keysAbove keys (key - 2047) = [] := by
      apply List.eq_nil_iff_forall_not_mem.mpr
      intro other member
      have parts := mem_keysAbove.mp member
      have := clearing.all other parts.1
      omega
    have total : mass keys ⟨2048, key - 2047, key, key - 2047, true, keys.length⟩ =
        keys.length := by
      rw [mass_mk, none_]
      rfl
    rw [total]
    exact ⟨fun _ => rfl, fun doubles => absurd doubles clearing.not_doubles,
      fun notClears => absurd clearing notClears⟩

end Mass

end StoreShape

section Overflow

variable {Weight : Type} [Zero Weight] [Add Weight] {i32 other : Int -> Option Int}
  (same : forall value, Approximates (i32 value) (other value))

include same

omit [Add Weight] in
theorem shiftedBins_approximates (shift : Int) (bins : List Weight) :
    Approximates (shiftedBins i32 shift bins) (shiftedBins other shift bins) := by
  apply Approximates.ite
  · exact fun _ => Approximates.refl _
  · intro _
    apply Approximates.ite
    · exact fun _ => Approximates.bind (same _) (fun _ => Approximates.refl _)
    · exact fun _ => Approximates.refl _

variable (store : CollapsingLowestDenseStore Weight)

omit [Add Weight] in
theorem shiftBins_approximates (shift : Int) :
    Approximates (store.shiftBins i32 shift) (store.shiftBins other shift) := by
  apply Approximates.bind (shiftedBins_approximates same shift store.bins)
  intro bins
  exact Approximates.bind (same _) (fun _ => Approximates.refl _)

omit [Add Weight] in
theorem centerBins_approximates (newMin newMax : Int) :
    Approximates (store.centerBins i32 newMin newMax) (store.centerBins other newMin newMax) := by
  apply Approximates.bind (same _)
  intro distance
  apply Approximates.bind (same _)
  intro span
  apply Approximates.bind (same _)
  intro middleKey
  apply Approximates.bind (same _)
  intro middle
  apply Approximates.bind (same _)
  intro shift
  exact shiftBins_approximates same store shift

theorem collapse_approximates (collapseMin : Int) :
    Approximates (store.collapse i32 collapseMin) (store.collapse other collapseMin) := by
  apply Approximates.ite
  · exact fun _ => Approximates.refl _
  · intro _
    apply Approximates.bind (same _)
    intro shift
    apply Approximates.ite
    · intro _
      apply Approximates.bind (same _)
      intro n
      apply Approximates.bind (same _)
      intro r
      apply Approximates.bind (Approximates.refl _)
      intro bins
      exact shiftBins_approximates same _ shift
    · exact fun _ => shiftBins_approximates same _ shift

theorem adjust_approximates (newMin newMax : Int) :
    Approximates (store.adjust i32 newMin newMax) (store.adjust other newMin newMax) := by
  apply Approximates.bind (same _)
  intro distance
  apply Approximates.bind (same _)
  intro span
  apply Approximates.ite
  · intro _
    apply Approximates.bind (same _)
    intro below
    apply Approximates.bind (same _)
    intro collapseMin
    exact Approximates.bind (collapse_approximates same store collapseMin)
      (fun _ => Approximates.refl _)
  · intro _
    exact Approximates.bind (centerBins_approximates same store newMin newMax)
      (fun _ => Approximates.refl _)

theorem extendRange_approximates (key key2 : Int) :
    Approximates (store.extendRange i32 key key2) (store.extendRange other key key2) := by
  have grows : forall newMin newMax,
      Approximates (store.grow i32 newMin newMax) (store.grow other newMin newMax) := by
    intro newMin newMax
    apply Approximates.ite
    · exact fun _ => adjust_approximates same _ newMin newMax
    · exact fun _ => adjust_approximates same _ newMin newMax
  apply Approximates.ite
  · exact fun _ => adjust_approximates same _ _ _
  · intro _
    apply Approximates.ite
    · intro _
      apply Approximates.bind (same _)
      intro top
      apply Approximates.ite
      · exact fun _ => Approximates.refl _
      · exact fun _ => grows _ _
    · exact fun _ => grows _ _

theorem getIndex_approximates (key : Int) :
    Approximates (store.getIndex i32 key) (store.getIndex other key) := by
  have finds : forall extended : CollapsingLowestDenseStore Weight,
      Approximates (extended.indexOf i32 key) (extended.indexOf other key) := by
    intro extended
    exact Approximates.bind (same _) (fun _ => Approximates.refl _)
  apply Approximates.ite
  · intro _
    apply Approximates.ite
    · exact fun _ => Approximates.refl _
    · intro _
      apply Approximates.bind (extendRange_approximates same store key key)
      intro extended
      apply Approximates.ite
      · exact fun _ => Approximates.refl _
      · exact fun _ => finds extended
  · intro _
    apply Approximates.ite
    · intro _
      exact Approximates.bind (extendRange_approximates same store key key) finds
    · exact fun _ => finds store

theorem add_approximates (key : Int) (weight : Weight) :
    Approximates (store.add i32 key weight) (store.add other key weight) := by
  exact Approximates.bind (getIndex_approximates same store key) (fun _ => Approximates.refl _)

end Overflow

section Runs

/-- A sequence of adds of weight 1 to a new store. -/
def addAll (i32 : Int -> Option Int) (keys : List Int) : Option (CollapsingLowestDenseStore Nat) :=
  keys.foldlM (fun store key => store.add i32 key 1) new

variable {i32 : Int -> Option Int} {bound reach : Int}

variable {keys : List Int}

theorem addAll_concat (keys : List Int) (key : Int) :
    addAll i32 (keys ++ [key]) = (addAll i32 keys).bind (fun store => store.add i32 key 1) := by
  rw [addAll, List.foldlM_append]
  congr 1
  funext store
  exact Option.bind_fun_some _

theorem addAll_approximates {other : Int -> Option Int}
    (same : forall value, Approximates (i32 value) (other value)) (keys : List Int) :
    Approximates (addAll i32 keys) (addAll other keys) :=
  Approximates.foldlM (fun store key => add_approximates same store key 1) keys new

/-- The keys of the source are of type `i32`. -/
def IsI32 (key : Int) : Prop := i32Min <= key ∧ key <= i32Max

/-- The run lemma: the store has a shape that fits the keys, and the sum of its bins
exceeds the number of keys unless every double count was cleared. -/
theorem addAll_store (exact_ : ExactUpTo i32 bound) (wide : 8192 <= reach)
    (room : 2 * reach <= bound + 1)
    (small : forall key, key ∈ keys -> StoreShape.InReach reach key ∧ IsI32 key)
    (nonempty : keys ≠ []) :
    Exists fun shape => StoreShape.Fits keys shape ∧
      addAll i32 keys = some (shape.store keys) ∧ keys.length <= shape.mass keys ∧
      (shape.mass keys = keys.length <-> Restored keys) := by
  induction keys using List.reverseRecOn with
  | nil => exact absurd rfl nonempty
  | append_singleton keys key ih =>
    have last := small key (List.mem_append_right keys List.mem_cons_self)
    have smallBefore : forall other, other ∈ keys -> StoreShape.InReach reach other ∧ IsI32 other :=
      fun other member => small other (List.mem_append_left [key] member)
    rw [addAll_concat, List.length_append, List.length_singleton, restored_concat_iff]
    by_cases empty : keys = []
    · obtain rfl := empty
      have added := StoreShape.add_new exact_ wide room last.1 last.2.1 last.2.2
      have single : ((StoreShape.first key).counted key).mass ([] ++ [key]) = 1 :=
        StoreShape.mass_counted
      refine ⟨(StoreShape.first key).counted key, StoreShape.fits_first key, added, ?_, ?_⟩
      · rw [single]
        exact Nat.le_refl 1
      · rw [single]
        refine ⟨fun _ => Or.inr ⟨restored_nil, ?_⟩, fun _ => rfl⟩
        intro doubles
        exact absurd doubles.own List.not_mem_nil
    · rcases ih smallBefore empty with ⟨shape, fits, runs, atLeast, restored⟩
      rcases StoreShape.add_store exact_ wide room fits (fun other member =>
        (smallBefore other member).1) last.1 with ⟨next, extension, added⟩
      have step := extension.massStep fits
      refine ⟨next.counted key, extension.fits fits, ?_, ?_⟩
      · rw [runs, Option.bind_some, added]
      · by_cases clears : Clears keys key
        · rw [step.clears clears]
          exact ⟨Nat.le_refl _, fun _ => Or.inl clears, fun _ => rfl⟩
        · by_cases doubles : Doubles keys key
          · have twice := List.count_pos_iff.mpr doubles.own
            rw [step.doubles doubles]
            refine ⟨by omega, fun equal => by omega, ?_⟩
            rintro (clearing | ⟨_, single⟩)
            · exact absurd clearing clears
            · exact absurd doubles single
          · rw [step.keeps clears doubles, Nat.add_right_cancel_iff, restored]
            refine ⟨Nat.add_le_add_right atLeast 1, fun before => Or.inr ⟨before, doubles⟩, ?_⟩
            rintro (clearing | ⟨before, _⟩)
            · exact absurd clearing clears
            · exact before

theorem i32Result_exactUpTo (overflowChecks : Bool) : ExactUpTo (i32Result overflowChecks) i32Max := by
  intro value low high
  have inRange : i32Min <= value ∧ value <= i32Max := by
    rw [i32Max] at low high
    rw [i32Min, i32Max]
    omega
  rw [i32Result, if_pos inRange]

/-- What is computed with overflow checks is computed exactly, and is computed
without the checks too. -/
theorem i32Result_checked {value result : Int} (checked : i32Result true value = some result) :
    result = value ∧ forall overflowChecks, i32Result overflowChecks value = some result := by
  rw [i32Result] at checked
  by_cases inRange : i32Min <= value ∧ value <= i32Max
  · rw [if_pos inRange] at checked
    refine ⟨(Option.some.inj checked).symm, ?_⟩
    intro overflowChecks
    rw [i32Result, if_pos inRange]
    exact checked
  · rw [if_neg inRange, if_pos rfl] at checked
    exact absurd checked.symm (Option.some_ne_none result)

/-- Without an overflow both builds end in the same store. -/
theorem addAll_unchecked {store : CollapsingLowestDenseStore Nat}
    (checked : addAll (i32Result true) keys = some store) (overflowChecks : Bool) :
    addAll (i32Result overflowChecks) keys = some store :=
  addAll_approximates (fun _ _ result => (i32Result_checked result).2 overflowChecks) keys store
    checked

/-- Without an overflow the store is the one of exact arithmetic. -/
theorem addAll_some {store : CollapsingLowestDenseStore Nat}
    (checked : addAll (i32Result true) keys = some store) : addAll some keys = some store := by
  apply addAll_approximates _ keys store checked
  intro value result succeeds
  rw [(i32Result_checked succeeds).1]

/-- Adds of keys below `2 ^ 30` never overflow. -/
theorem addAll_returns (overflowChecks : Bool)
    (small : forall key, key ∈ keys -> -2 ^ 30 < key ∧ key < 2 ^ 30) (nonempty : keys ≠ []) :
    Exists fun shape => StoreShape.Fits keys shape ∧
      addAll (i32Result overflowChecks) keys = some (shape.store keys) := by
  have inReach : forall key, key ∈ keys -> StoreShape.InReach (2 ^ 30) key ∧ IsI32 key := by
    intro key member
    have bounds := small key member
    rw [StoreShape.InReach, IsI32, i32Min, i32Max]
    omega
  rcases addAll_store (i32Result_exactUpTo overflowChecks) (by decide) (by decide) inReach nonempty
    with ⟨shape, fits, runs, _⟩
  exact ⟨shape, fits, runs⟩

/-- The content of the bin of a key, zero for a key without a bin. -/
def binOf (key : Int) (store : CollapsingLowestDenseStore Nat) : Nat :=
  if store.offset <= key then store.bins.getD (key - store.offset).toNat 0 else 0

theorem binOf_store {shape : StoreShape} (fits : StoreShape.Fits keys shape) (key : Int) :
    binOf key (shape.store keys) = binTable keys shape.minKey shape.amount key := by
  have low := fits.low
  change (if shape.offset <= key then (window (binTable keys shape.minKey shape.amount) shape.offset
    shape.size).getD (key - shape.offset).toNat 0 else 0) = _
  by_cases starts : shape.offset <= key
  · have place : shape.offset + ((key - shape.offset).toNat : Nat) = key := by omega
    rw [if_pos starts, List.getD_eq_getElem?_getD]
    by_cases inside : (key - shape.offset).toNat < shape.size
    · rw [getElem?_window _ _ inside, place, Option.getD_some]
    · rw [List.getElem?_eq_none (by rw [length_window]; omega), fits.above key (by omega)]
      rfl
  · rw [if_neg starts, binTable_of_lt (by omega)]

/-- The range and the bins of a store are those of the keys. -/
structure Follows (keys : List Int) (store : CollapsingLowestDenseStore Nat) : Prop where
  low : store.offset <= store.minKey
  ordered : store.minKey <= store.maxKey
  high : store.maxKey < store.offset + store.bins.length
  chunks : 128 ∣ store.bins.length
  few : store.bins.length <= 2048
  highest : store.maxKey ∈ keys ∧ forall key, key ∈ keys -> key <= store.maxKey
  lowest : store.isCollapsed = false ->
    store.minKey ∈ keys ∧ forall key, key ∈ keys -> store.minKey <= key
  collapsed : store.isCollapsed = true -> store.minKey = store.maxKey - 2047
  counts : forall key, store.minKey < key ∨ store.isCollapsed = false ->
    binOf key store = keys.count key

theorem follows_store {shape : StoreShape} (fits : StoreShape.Fits keys shape) :
    Follows keys (shape.store keys) := by
  have length_eq : (shape.store keys).bins.length = shape.size := length_window _ _ _
  refine ⟨fits.low, fits.ordered, ?_, ?_, ?_, ⟨fits.highest, fits.atMost⟩, ?_, ?_, ?_⟩
  · rw [length_eq]
    exact fits.high
  · rw [length_eq]
    exact Nat.dvd_of_mod_eq_zero fits.chunks
  · rw [length_eq]
    exact fits.few
  · intro uncollapsed
    rcases fits.spread uncollapsed with ⟨lowest, atLeast, _⟩
    exact ⟨lowest, atLeast⟩
  · intro collapsed
    exact (fits.collapsed collapsed).2.2.1
  · intro key
    rw [binOf_store fits]
    rintro (above | uncollapsed)
    · exact binTable_of_gt above
    · rcases fits.spread uncollapsed with ⟨_, atLeast, amount⟩
      rw [amount, binTable_eq_count atLeast]

/-- Adding keys below `2 ^ 30` neither panics nor overflows, whether the build checks
for overflows or not, and leaves a store that follows the keys. -/
theorem store_follows_keys (overflowChecks : Bool) (keys : List Int)
    (small : forall key, key ∈ keys -> -2 ^ 30 < key ∧ key < 2 ^ 30) :
    Exists fun store =>
      addAll (i32Result overflowChecks) keys = some store ∧ (keys ≠ [] -> Follows keys store) := by
  by_cases empty : keys = []
  · obtain rfl := empty
    exact ⟨new, rfl, fun nonempty => absurd rfl nonempty⟩
  · rcases addAll_returns overflowChecks small empty with ⟨shape, fits, runs⟩
    exact ⟨shape.store keys, runs, fun _ => follows_store fits⟩

theorem store_follows_keys_collapsed :
    (forall key, key ∈ [(0 : Int), 1, 2, 2048] -> -2 ^ 30 < key ∧ key < 2 ^ 30) ∧
      Exists fun store => addAll (i32Result true) [0, 1, 2, 2048] = some store ∧
          ([(0 : Int), 1, 2, 2048] ≠ [] -> Follows [0, 1, 2, 2048] store) :=
  ⟨by decide, store_follows_keys true [0, 1, 2, 2048] (by decide)⟩

/-- The sum of the bins is the number of adds exactly if every add that counts keys
twice is followed by one that clears the bins. -/
theorem sum_bins_eq_count_iff (overflowChecks : Bool) (keys : List Int)
    (typed : forall key, key ∈ keys -> IsI32 key) :
    ((forall key, key ∈ keys -> -2 ^ 30 < key ∧ key < 2 ^ 30) ->
      Exists fun store => addAll (i32Result true) keys = some store) ∧
    forall store, addAll (i32Result true) keys = some store ->
      addAll (i32Result overflowChecks) keys = some store ∧ store.count = keys.length ∧
        (store.bins.sum = store.count <-> Restored keys) := by
  by_cases empty : keys = []
  · obtain rfl := empty
    refine ⟨fun _ => ⟨new, rfl⟩, ?_⟩
    intro store runs
    obtain rfl := Option.some.inj runs
    exact ⟨rfl, rfl, fun _ => restored_nil, fun _ => rfl⟩
  · constructor
    · intro small
      rcases addAll_returns true small empty with ⟨shape, _, runs⟩
      exact ⟨shape.store keys, runs⟩
    · intro store runs
      have inReach : forall key, key ∈ keys -> StoreShape.InReach (2 ^ 32) key ∧ IsI32 key := by
        intro key member
        refine ⟨?_, typed key member⟩
        have bounds := typed key member
        rw [IsI32, i32Min, i32Max] at bounds
        rw [StoreShape.InReach]
        omega
      -- Exact arithmetic has no bound, so the run lemma holds for all keys there.
      have unbounded : ExactUpTo some (2 ^ 33) := fun _ _ _ => rfl
      rcases addAll_store unbounded (by decide) (by decide) inReach empty with
        ⟨shape, fits, exactly, _, restored⟩
      obtain rfl := Option.some.inj ((addAll_some runs).symm.trans exactly)
      refine ⟨addAll_unchecked runs overflowChecks, rfl, ?_⟩
      rw [fits.sum_bins]
      exact restored

/-- No bin of the three keys is merged into one with a key of its own. -/
theorem sum_bins_eq_count_iff_spread :
    Exists fun store =>
      addAll (i32Result true) [0, 2, 2048] = some store ∧ store.bins.sum = store.count := by
  have typed : forall key, key ∈ [(0 : Int), 2, 2048] -> IsI32 key := by
    intro key member
    rw [IsI32]
    revert key
    decide
  have restored : Restored [0, 2, 2048] := by
    intro earlier key later split doubles
    have own : key - 2047 ∈ [(0 : Int), 2, 2048] := by
      rw [split]
      exact List.mem_append_left _ doubles.own
    have member : key ∈ [(0 : Int), 2, 2048] := by
      rw [split]
      exact List.mem_append_right _ List.mem_cons_self
    simp only [List.mem_cons, List.not_mem_nil, or_false] at own member
    omega
  obtain ⟨returns, adds⟩ := sum_bins_eq_count_iff false [0, 2, 2048] typed
  obtain ⟨store, runs⟩ := returns (by decide)
  exact ⟨store, runs, (adds store runs).2.2.mpr restored⟩

/-- Keys 0, 1 and 2 and then 2048: the bin of 1 takes the key 0 in, and its own key
once more. -/
theorem merged_bin_counted_twice :
    (addAll (i32Result true) [0, 1, 2, 2048]).map (fun store => (store.bins.sum, store.count)) =
      some (5, 4) := by
  decide +kernel

end Runs

end DataStreams
end Bottlecap
