import Mathlib.Data.List.Forall2

namespace Bottlecap
namespace Foundations

/-!
# Loops that pass a state along

A loop over a list that computes one result for each entry and passes a state from one
round to the next.  The state that an entry meets depends on the entries before it, and
`meets` pairs each entry with it.
-/

namespace Threading

variable {State Entry Result : Type}

/-- The results of a loop, and the state after it. -/
def thread (step : State -> Entry -> Result × State) (state : State) :
    List Entry -> List Result × State
  | [] => ([], state)
  | entry :: rest =>
    let first := step state entry
    let others := thread step first.2 rest
    (first.1 :: others.1, others.2)

/-- The entries, each with the state that it meets. -/
def meets (step : State -> Entry -> Result × State) (state : State) :
    List Entry -> List (State × Entry)
  | [] => []
  | entry :: rest => (state, entry) :: meets step (step state entry).2 rest

/-- Each result is that of its entry in the state that the entry meets. -/
theorem forall₂_thread {spec : State × Entry -> Result -> Prop}
    {step : State -> Entry -> Result × State}
    (computes : forall state entry, spec (state, entry) (step state entry).1) (state : State)
    (entries : List Entry) :
    List.Forall₂ spec (meets step state entries) (thread step state entries).1 := by
  induction entries generalizing state with
  | nil => exact List.Forall₂.nil
  | cons entry _ ih => exact List.Forall₂.cons (computes state entry) (ih (step state entry).2)

end Threading
end Foundations
end Bottlecap
