import Mathlib.Data.List.Basic

namespace Bottlecap
namespace Foundations

/-!
# Runs of a step function

A run folds a step function over a list of inputs, everything that depends on
the surroundings being part of an input.  Safety results are about runs whose
every step meets some condition on the state before it and on its input:
`Along` is that condition for a whole run, `Always` says that a property holds
in each of its states.

The rules turn what one step keeps into what a run keeps, and transport runs
along a view of the state under which the step function is simulated by another.
-/

namespace Machine

variable {State Input : Type} (step : State -> Input -> State)

/-- Every step of the run meets `condition`, which sees the state before the
step and the step's input. -/
def Along (condition : State -> Input -> Prop) (state : State) : List Input -> Prop
  | [] => True
  | input :: rest => condition state input ∧ Along condition (step state input) rest

/-- The property holds in every state of the run, the first and the last one
included. -/
def Always (property : State -> Prop) (state : State) : List Input -> Prop
  | [] => property state
  | input :: rest => property state ∧ Always property (step state input) rest

variable {step}

variable {condition : State -> Input -> Prop} {inputs : List Input} {state : State}
  {keeps property : State -> Prop}

theorem along_of_forall (state : State)
    (meets : forall input, input ∈ inputs -> forall state, condition state input) :
    Along step condition state inputs := by
  induction inputs generalizing state with
  | nil => trivial
  | cons input _ ih =>
    rw [List.forall_mem_cons] at meets
    exact ⟨meets.1 state,
      ih _ meets.2⟩

theorem along_append {first second : List Input} :
    Along step condition state (first ++ second) <->
      Along step condition state first ∧ Along step condition (first.foldl step state) second := by
  induction first generalizing state with
  | nil => exact ⟨fun along => ⟨trivial, along⟩, fun along => along.2⟩
  | cons _ _ ih =>
    rw [List.cons_append, List.foldl_cons]
    simp only [Along, ih, and_assoc]

theorem along_and {first second : State -> Input -> Prop} :
    Along step (fun state input => first state input ∧ second state input) state inputs <->
      Along step first state inputs ∧ Along step second state inputs := by
  induction inputs generalizing state with
  | nil => exact ⟨fun _ => ⟨trivial, trivial⟩, fun _ => trivial⟩
  | cons _ _ ih =>
    simp only [Along, ih]
    exact and_and_and_comm

/-- A run meets the condition wherever it is cut. -/
theorem along_iff_forall_split :
    Along step condition state inputs <->
      forall before input after, inputs = before ++ input :: after ->
        condition (before.foldl step state) input := by
  induction inputs generalizing state with
  | nil => exact ⟨fun _ before input after cut => absurd cut (List.append_ne_nil_of_right_ne_nil
      before (List.cons_ne_nil input after)).symm, fun _ => trivial⟩
  | cons first rest ih =>
    constructor
    · rintro ⟨met, along⟩ before input after cut
      cases before with
      | nil =>
        cases cut
        exact met
      | cons _ before =>
        cases cut
        exact ih.mp along before input after rfl
    · intro everywhere
      refine ⟨everywhere [] first rest rfl, ih.mpr ?_⟩
      intro before input after cut
      exact everywhere (first :: before) input after (congrArg (List.cons first) cut)

/-- What a step that meets the condition keeps, a run along it keeps. -/
theorem Along.invariant (along : Along step condition state inputs)
    (stays : forall state input, keeps state -> condition state input ->
      keeps (step state input)) (initial : keeps state) : keeps (inputs.foldl step state) := by
  induction inputs generalizing state with
  | nil => exact initial
  | cons input _ ih => exact ih along.2 (stays state input initial along.1)

/-- It holds in every state of such a run. -/
theorem Along.always (along : Along step condition state inputs)
    (stays : forall state input, keeps state -> condition state input ->
      keeps (step state input)) (initial : keeps state) : Always step keeps state inputs := by
  induction inputs generalizing state with
  | nil => exact initial
  | cons input _ ih => exact ⟨initial, ih along.2 (stays state input initial along.1)⟩

/-- A condition that follows from the first one in such states. -/
theorem Along.weaken {weaker : State -> Input -> Prop} (along : Along step condition state inputs)
    (stays : forall state input, keeps state -> condition state input ->
      keeps (step state input))
    (implies : forall state input, keeps state -> condition state input -> weaker state input)
    (initial : keeps state) : Along step weaker state inputs := by
  induction inputs generalizing state with
  | nil => trivial
  | cons input _ ih =>
    exact ⟨implies state input initial along.1,
      ih along.2 (stays state input initial along.1)⟩

theorem Always.last (always : Always step property state inputs) :
    property (inputs.foldl step state) := by
  induction inputs generalizing state with
  | nil => exact always
  | cons _ _ ih => exact ih always.2

theorem Always.mono {stronger weaker : State -> Prop}
    (implies : forall state, stronger state -> weaker state)
    (always : Always step stronger state inputs) : Always step weaker state inputs := by
  induction inputs generalizing state with
  | nil => exact implies state always
  | cons _ _ ih => exact ⟨implies state always.1, ih always.2⟩

/-- A property that a step keeps exactly under a condition holds throughout a run
exactly if it holds at first and every step meets the condition. -/
theorem always_iff_along (exact_step : forall state input, property state ->
      (property (step state input) <-> condition state input))
    (state : State) (inputs : List Input) :
    Always step property state inputs <-> property state ∧ Along step condition state inputs := by
  induction inputs generalizing state with
  | nil => exact ⟨fun holds => ⟨holds, trivial⟩, fun holds => holds.1⟩
  | cons input _ ih =>
    constructor
    · rintro ⟨holds, later⟩
      rcases (ih _).mp later with ⟨next, along⟩
      exact ⟨holds, (exact_step state input holds).mp next, along⟩
    · rintro ⟨holds, met, along⟩
      exact ⟨holds, (ih _).mpr ⟨(exact_step state input holds).mpr met, along⟩⟩

/-- The same for a property of states together with one of steps, in runs that keep an
invariant. -/
theorem always_and_along_iff {timely : State -> Input -> Prop}
    (stays : forall state input, keeps state -> keeps (step state input))
    (exact_step : forall state input, keeps state -> property state ->
      (property (step state input) ∧ timely state input <-> condition state input))
    (kept : keeps state) (holds : property state) (inputs : List Input) :
    Always step property state inputs ∧ Along step timely state inputs <->
      Along step condition state inputs := by
  induction inputs generalizing state with
  | nil => exact ⟨fun _ => trivial, fun _ => ⟨holds, trivial⟩⟩
  | cons input rest ih =>
    have next := stays state input kept
    constructor
    · rintro ⟨⟨_, later⟩, timely, along⟩
      have after : property (step state input) := by
        cases rest with
        | nil => exact later
        | cons => exact later.1
      exact ⟨(exact_step state input kept holds).mp ⟨after, timely⟩, (ih next after).mp ⟨later, along⟩⟩
    · rintro ⟨met, along⟩
      rcases (exact_step state input kept holds).mpr met with ⟨after, timely⟩
      rcases (ih next after).mpr along with ⟨later, rest⟩
      exact ⟨⟨holds, later⟩, timely, rest⟩

/-- Two conditions that agree in every state with the invariant hold along the same
runs. -/
theorem along_iff_along {first second : State -> Input -> Prop}
    (stays : forall state input, keeps state -> keeps (step state input))
    (agree : forall state input, keeps state -> (first state input <-> second state input))
    (kept : keeps state) (inputs : List Input) :
    Along step first state inputs <-> Along step second state inputs := by
  induction inputs generalizing state with
  | nil => exact Iff.rfl
  | cons input _ ih =>
    exact and_congr (agree state input kept) (ih (stays state input kept))

section Tally

/-- The sum of what each step of the run counts. -/
def tally (step : State -> Input -> State) (count : State -> Input -> Nat) (state : State) :
    List Input -> Nat
  | [] => 0
  | input :: rest => count state input + tally step count (step state input) rest

variable {count : State -> Input -> Nat}

theorem tally_add (first second : State -> Input -> Nat) (state : State) (inputs : List Input) :
    tally step (fun state input => first state input + second state input) state inputs =
      tally step first state inputs + tally step second state inputs := by
  induction inputs generalizing state with
  | nil => rfl
  | cons _ _ ih =>
    simp only [tally, ih]
    omega

theorem tally_eq_zero_iff (state : State) (inputs : List Input) :
    tally step count state inputs = 0 <->
      Along step (fun state input => count state input = 0) state inputs := by
  induction inputs generalizing state with
  | nil => exact ⟨fun _ => trivial, fun _ => rfl⟩
  | cons _ _ ih => simp only [tally, Along, Nat.add_eq_zero_iff, ih]

/-- Steps that count only inputs of one kind, each once at most. -/
theorem tally_le_countP {kind : Input -> Bool}
    (bound : forall state input, count state input <= (kind input).toNat) (state : State)
    (inputs : List Input) : tally step count state inputs <= inputs.countP kind := by
  induction inputs generalizing state with
  | nil => exact Nat.le_refl 0
  | cons input _ ih =>
    have head := bound state input
    have tail := ih (step state input)
    rw [tally, List.countP_cons]
    cases chosen : kind input with
    | false =>
      simp only [chosen, Bool.toNat_false] at head ⊢
      omega
    | true =>
      simp only [chosen, Bool.toNat_true, if_true] at head ⊢
      omega

/-- Steps that count no more than some measure grows by. -/
theorem tally_le_growth {size : State -> Nat}
    (bound : forall state input, count state input + size state <= size (step state input))
    (state : State) (inputs : List Input) :
    tally step count state inputs + size state <= size (inputs.foldl step state) := by
  induction inputs generalizing state with
  | nil => exact Nat.le_of_eq (Nat.zero_add _)
  | cons input _ ih =>
    have head := bound state input
    have tail := ih (step state input)
    rw [tally, List.foldl_cons]
    omega

end Tally

/-- A property that a step keeps exactly under a condition, in runs that keep an
invariant. -/
theorem always_iff_along_of_invariant {keeps property : State -> Prop}
    {condition : State -> Input -> Prop}
    (stays : forall state input, keeps state -> keeps (step state input))
    (exact_step : forall state input, keeps state -> property state ->
      (property (step state input) <-> condition state input))
    {state : State} (kept : keeps state) (holds : property state) (inputs : List Input) :
    Always step property state inputs <-> Along step condition state inputs := by
  have timely : Along step (fun _ _ => True) state inputs :=
    along_of_forall state (fun _ _ _ => trivial)
  rw [<- always_and_along_iff stays
    (fun state input kept holds => by rw [and_true]; exact exact_step state input kept holds)
    kept holds inputs]
  exact ⟨fun always => ⟨always, timely⟩, fun both => both.1⟩

section Simulation

variable {View : Type} {viewStep : View -> Input -> View} {view : State -> View}
  (simulates : forall state input, view (step state input) = viewStep (view state) input)

include simulates

theorem view_foldl (state : State) (inputs : List Input) :
    view (inputs.foldl step state) = inputs.foldl viewStep (view state) := by
  induction inputs generalizing state with
  | nil => rfl
  | cons _ _ ih => rw [List.foldl_cons, List.foldl_cons, ih, simulates]

end Simulation
end Machine
end Foundations
end Bottlecap
