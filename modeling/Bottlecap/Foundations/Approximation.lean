import Mathlib.Data.List.Basic

namespace Bottlecap
namespace Foundations

/-!
# Computations that differ only where one of them fails

A computation may be written over operations that can fail.  If they are replaced by
operations with the same results that fail less often, the computation has the same
result wherever it had one.  The rules follow the way such computations are put
together.
-/

/-- Wherever the first has a result, the second has the same. -/
def Approximates {Result : Type} (first second : Option Result) : Prop :=
  forall result, first = some result -> second = some result

namespace Approximates

variable {Result Final : Type}

theorem refl (computation : Option Result) : Approximates computation computation :=
  fun _ succeeds => succeeds

theorem bind {first second : Option Result} {next other : Result -> Option Final}
    (start : Approximates first second) (later : forall result, Approximates (next result) (other result)) :
    Approximates (first >>= next) (second >>= other) := by
  intro final succeeds
  rcases Option.bind_eq_some_iff.mp succeeds with ⟨result, begins, ends⟩
  exact Option.bind_eq_some_iff.mpr ⟨result, start result begins, later result final ends⟩

theorem ite {condition : Prop} [Decidable condition] {first second one other : Option Result}
    (positive : condition -> Approximates first second)
    (negative : ¬ condition -> Approximates one other) :
    Approximates (if condition then first else one) (if condition then second else other) := by
  by_cases holds : condition
  · rw [if_pos holds, if_pos holds]
    exact positive holds
  · rw [if_neg holds, if_neg holds]
    exact negative holds

theorem foldlM {Item : Type} {step other : Result -> Item -> Option Result}
    (each : forall state item, Approximates (step state item) (other state item))
    (items : List Item) (state : Result) :
    Approximates (items.foldlM step state) (items.foldlM other state) := by
  induction items generalizing state with
  | nil => exact refl _
  | cons item _ ih =>
    exact bind (each state item) ih

end Approximates
end Foundations
end Bottlecap
