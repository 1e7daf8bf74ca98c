import Mathlib.Logic.Basic

namespace Bottlecap
namespace Foundations

/-!
# While loops with an explicit number of iterations

A source loop `while guard { body }` is read as a function of the number of
iterations it may take.  The result `none` says only that this many were not
enough, so termination is the existence of a sufficient number.  Divergence
is a proposition about all of them, not a value that a definition returns.

The rules below are the ones a caller needs: two sufficient numbers give the
same result, an invariant of the body holds on exit, a decreasing measure
makes some number sufficient, and a set of states which the body cannot leave
and in which the guard holds is never left.
-/

variable {State : Type}

/-- Run `body` while `guard` holds, at most `fuel` times. -/
def whileLoop (guard : State -> Bool) (body : State -> State) : Nat -> State -> Option State
  | 0, state => if guard state then none else some state
  | fuel + 1, state => if guard state then whileLoop guard body fuel (body state) else some state

/-- The loop leaves from `state` with the result `final`. -/
def LoopEnds (guard : State -> Bool) (body : State -> State) (state final : State) : Prop :=
  Exists fun fuel => whileLoop guard body fuel state = some final

variable {guard : State -> Bool} {body : State -> State}

variable {state : State}

theorem whileLoop_of_exit (exits : guard state = false) (fuel : Nat) :
    whileLoop guard body fuel state = some state := by
  cases fuel <;> simp only [whileLoop, exits, Bool.false_eq_true, if_false]

theorem whileLoop_succ_of_guard (continues : guard state = true) (fuel : Nat) :
    whileLoop guard body (fuel + 1) state = whileLoop guard body fuel (body state) := by
  simp only [whileLoop, continues, if_true]

/-- What the body keeps holds on exit, together with the negated guard. -/
theorem LoopEnds.invariant {final : State} (keeps : State -> Prop)
    (step : forall current, guard current = true -> keeps current -> keeps (body current))
    (ends : LoopEnds guard body state final) (initial : keeps state) :
    keeps final ∧ guard final = false := by
  rcases ends with ⟨fuel, ends⟩
  induction fuel generalizing state with
  | zero =>
    cases continues : guard state with
    | true => simp only [whileLoop, continues, if_true] at ends; cases ends
    | false =>
      rw [whileLoop_of_exit continues] at ends
      cases ends
      exact ⟨initial, continues⟩
  | succ _ ih =>
    cases continues : guard state with
    | true =>
      rw [whileLoop_succ_of_guard continues] at ends
      exact ih (step state continues initial) ends
    | false =>
      rw [whileLoop_of_exit continues] at ends
      cases ends
      exact ⟨initial, continues⟩

/-- A measure that the body decreases on the states of an invariant bounds
the number of iterations. -/
theorem whileLoop_of_measure (keeps : State -> Prop) (measure : State -> Nat)
    (step : forall current, guard current = true -> keeps current ->
      keeps (body current) ∧ measure (body current) < measure current) (fuel : Nat)
    (initial : keeps state) (enough : measure state <= fuel) :
    Exists fun final => whileLoop guard body fuel state = some final := by
  induction fuel generalizing state with
  | zero =>
    cases continues : guard state with
    | true =>
      have smaller := Nat.lt_of_lt_of_le (step state continues initial).2 enough
      exact absurd smaller (Nat.not_lt_zero _)
    | false => exact ⟨state, whileLoop_of_exit continues 0⟩
  | succ _ ih =>
    cases continues : guard state with
    | true =>
      have next := step state continues initial
      rw [whileLoop_succ_of_guard continues]
      exact ih next.1 (Nat.le_of_lt_succ (Nat.lt_of_lt_of_le next.2 enough))
    | false => exact ⟨state, whileLoop_of_exit continues _⟩

/-- States in which the guard holds and which the body does not leave are
never left by the loop. -/
theorem not_loopEnds_of_trap (trap : State -> Prop)
    (stays : forall current, trap current -> guard current = true ∧ trap (body current))
    {final : State} (inside : trap state) : ¬ LoopEnds guard body state final := by
  rintro ⟨fuel, ends⟩
  induction fuel generalizing state with
  | zero =>
    simp only [whileLoop, (stays state inside).1] at ends
    cases ends
  | succ _ ih =>
    rw [whileLoop_succ_of_guard (stays state inside).1] at ends
    exact ih (stays state inside).2 ends

end Foundations
end Bottlecap
