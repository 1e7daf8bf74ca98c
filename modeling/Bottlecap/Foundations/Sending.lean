import Mathlib.Data.List.Basic
import Mathlib.Data.List.TakeWhile

namespace Bottlecap
namespace Foundations

/-!
# Sending items

An item is sent with a bounded number of attempts, and items are sent either all at
once or in order until one fails.  `Flushed` keeps what a sender hands back to its
caller beside what it put on the wire, so that the two can be compared.
-/

/-- How the sending of an item ends. -/
inductive Outcome where
  | accepted
  /-- Turned down, and another attempt would not help. -/
  | refused
  /-- Every attempt failed. -/
  | exhausted
  /-- No attempt was made. -/
  | unsent
  deriving DecidableEq

/-- The item is neither taken nor handed back. -/
def Outcome.Silent (outcome : Outcome) : Prop :=
  outcome = .refused ∨ outcome = .unsent

theorem Outcome.accepted_iff_not_silent {outcome : Outcome} (ended : outcome ≠ .exhausted) :
    outcome = .accepted <-> ¬ outcome.Silent := by
  cases outcome <;> simp_all [Outcome.Silent]

/-- The first of `count` attempts that settles the item ends the loop. -/
def settled {Reply : Type} (settle : Reply -> Option Outcome) (count : Nat)
    (replies : Nat -> Reply) : Outcome :=
  ((List.range' 1 count).findSome? (fun attempt => settle (replies attempt))).getD
    .exhausted

theorem settled_ne_unsent {Reply : Type} {settle : Reply -> Option Outcome}
    (never : forall reply, settle reply ≠ some .unsent) (count : Nat)
    (replies : Nat -> Reply) : settled settle count replies ≠ .unsent := by
  rw [settled]
  cases found : (List.range' 1 count).findSome? (fun attempt => settle (replies attempt)) with
  | none => exact Outcome.noConfusion
  | some =>
    rcases List.exists_of_findSome?_eq_some found with ⟨attempt, _, answer⟩
    rintro rfl
    exact never _ answer

/-- The replies up to the first that settles the item. -/
def untilSettled {Reply : Type} (settle : Reply -> Option Outcome) : List Reply -> List Reply
  | [] => []
  | reply :: rest =>
    if (settle reply).isSome then [reply] else reply :: untilSettled settle rest

/-- The replies to the attempts that are made of `count`. -/
def received {Reply : Type} (settle : Reply -> Option Outcome) (count : Nat)
    (replies : Nat -> Reply) : List Reply :=
  untilSettled settle ((List.range' 1 count).map replies)

section Received

variable {Reply : Type} {settle : Reply -> Option Outcome} {count : Nat} {replies : Nat -> Reply}

theorem untilSettled_sublist (replies : List Reply) :
    List.Sublist (untilSettled settle replies) replies := by
  induction replies with
  | nil => exact List.Sublist.refl []
  | cons reply rest ih =>
    rw [untilSettled]
    split
    · exact List.singleton_sublist.mpr List.mem_cons_self
    · exact ih.cons_cons reply

theorem head_mem_untilSettled (reply : Reply) (rest : List Reply) :
    reply ∈ untilSettled settle (reply :: rest) := by
  rw [untilSettled]
  split <;> exact List.mem_cons_self

/-- No attempt is made after a reply of a kind exactly if each such reply comes last or ends
the attempts, or an earlier one has ended them. -/
theorem untilSettled_pairwise_iff (kind : Reply -> Prop) (replies : List Reply) :
    (untilSettled settle replies).Pairwise (fun earlier _ => ¬ kind earlier) <->
      forall before reply after, replies = before ++ reply :: after -> kind reply ->
        after = [] ∨ Exists fun ending => ending ∈ before ++ [reply] ∧ settle ending ≠ none := by
  induction replies with
  | nil => simp [untilSettled]
  | cons first rest ih =>
    rw [untilSettled]
    cases ends : settle first with
    | some outcome =>
      refine iff_of_true (List.pairwise_singleton _ first) ?_
      intro before reply after split _
      refine Or.inr ⟨first, ?_, by rw [ends]; nofun⟩
      cases before with
      | nil => exact (List.cons.inj split).1 ▸ List.mem_cons_self
      | cons => exact (List.cons.inj split).1 ▸ List.mem_cons_self
    | none =>
      have goesOn : forall before, (Exists fun ending =>
          ending ∈ first :: before ∧ settle ending ≠ none) ->
          Exists fun ending => ending ∈ before ∧ settle ending ≠ none := by
        rintro before ⟨ending, listed, settles⟩
        rcases List.mem_cons.mp listed with rfl | later
        · exact absurd ends settles
        · exact ⟨ending, later, settles⟩
      change (first :: untilSettled settle rest).Pairwise _ <-> _
      rw [List.pairwise_cons, ih]
      constructor
      · rintro ⟨last, later⟩ before reply after split isKind
        cases before with
        | nil =>
          rcases List.cons.inj split with ⟨rfl, rfl⟩
          cases rest with
          | nil => exact Or.inl rfl
          | cons next => exact absurd isKind (last next (head_mem_untilSettled next _))
        | cons =>
          rcases List.cons.inj split with ⟨rfl, rfl⟩
          refine (later _ reply after rfl isKind).imp_right ?_
          rintro ⟨ending, listed, settles⟩
          exact ⟨ending, List.mem_cons_of_mem _ listed, settles⟩
      · intro all
        refine ⟨?_, ?_⟩
        · intro next member isKind
          rcases all [] first rest rfl isKind with rfl | ended
          · exact List.not_mem_nil member
          · rcases goesOn [] ended with ⟨ending, listed, _⟩
            exact List.not_mem_nil listed
        · rintro before reply after rfl isKind
          exact (all (first :: before) reply after rfl isKind).imp_right (goesOn _)

theorem untilSettled_append (first rest : List Reply) :
    untilSettled settle (first ++ rest) = untilSettled settle first ++
      if (first.findSome? settle).isSome then [] else untilSettled settle rest := by
  induction first with
  | nil => rfl
  | cons reply first ih =>
    rw [List.cons_append, untilSettled, untilSettled, List.findSome?_cons]
    cases settle reply with
    | none => exact congrArg (List.cons reply) ih
    | some => rfl

theorem settled_eq_exhausted_iff (never : forall reply, settle reply ≠ some .exhausted) :
    settled settle count replies = .exhausted <->
      ((List.range' 1 count).map replies).findSome? settle = none := by
  rw [settled, List.findSome?_map]
  change ((List.range' 1 count).findSome? (settle ∘ replies)).getD _ = _ <-> _
  cases found : (List.range' 1 count).findSome? (settle ∘ replies) with
  | none => exact iff_of_true rfl rfl
  | some outcome =>
    refine iff_of_false ?_ nofun
    rintro rfl
    rcases List.exists_of_findSome?_eq_some found with ⟨attempt, _, answer⟩
    exact never _ answer

end Received

variable {Item : Type}

structure Delivery (Item : Type) where
  item : Item
  accepted : Bool
  deriving DecidableEq

structure Flushed (Item : Type) where
  /-- What is handed back to be sent again. -/
  failed : List Item
  /-- What was put on the wire. -/
  sent : List (Delivery Item)

def Flushed.nothing : Flushed Item := ⟨[], []⟩

def Flushed.concat (parts : List (Flushed Item)) : Flushed Item :=
  ⟨parts.flatMap Flushed.failed, parts.flatMap Flushed.sent⟩

def Flushed.Attempted (flushed : Flushed Item) (item : Item) : Prop :=
  Exists fun accepted => (⟨item, accepted⟩ : Delivery Item) ∈ flushed.sent

def Flushed.Accepted (flushed : Flushed Item) (item : Item) : Prop :=
  (⟨item, true⟩ : Delivery Item) ∈ flushed.sent

variable {parts : List (Flushed Item)}

theorem Flushed.Accepted.attempted {flushed : Flushed Item} {item : Item}
    (accepted : flushed.Accepted item) : flushed.Attempted item := ⟨true, accepted⟩

@[simp] theorem not_attempted_nothing (item : Item) : ¬ (Flushed.nothing).Attempted item := by
  rintro ⟨accepted, member⟩
  exact List.not_mem_nil member

@[simp] theorem not_accepted_nothing (item : Item) : ¬ (Flushed.nothing).Accepted item :=
  fun accepted => not_attempted_nothing item accepted.attempted

@[simp] theorem failed_nothing : (Flushed.nothing : Flushed Item).failed = [] := rfl

theorem mem_failed_concat {item : Item} :
    item ∈ (Flushed.concat parts).failed <->
      Exists fun part => part ∈ parts ∧ item ∈ part.failed :=
  List.mem_flatMap

theorem accepted_concat {item : Item} :
    (Flushed.concat parts).Accepted item <->
      Exists fun part => part ∈ parts ∧ part.Accepted item :=
  List.mem_flatMap

theorem attempted_concat {item : Item} :
    (Flushed.concat parts).Attempted item <->
      Exists fun part => part ∈ parts ∧ part.Attempted item := by
  constructor
  · rintro ⟨accepted, member⟩
    rcases List.mem_flatMap.mp member with ⟨part, listed, sent⟩
    exact ⟨part, listed, accepted, sent⟩
  · rintro ⟨part, listed, accepted, sent⟩
    exact ⟨accepted, List.mem_flatMap.mpr ⟨part, listed, sent⟩⟩

/-- A property of parts that holds of a concatenation when it holds of a part. -/
theorem exists_concat (sees : Flushed Item -> Item -> Prop)
    (concat : forall item, sees (Flushed.concat parts) item <->
      Exists fun part => part ∈ parts ∧ sees part item) (meets : Item -> Prop) :
    (Exists fun item => sees (Flushed.concat parts) item ∧ meets item) <->
      Exists fun part => part ∈ parts ∧
        Exists fun item => sees part item ∧ meets item := by
  simp only [concat]
  constructor
  · rintro ⟨item, ⟨part, listed, seen⟩, met⟩
    exact ⟨part, listed, item, seen, met⟩
  · rintro ⟨part, listed, item, seen, met⟩
    exact ⟨item, ⟨part, listed, seen⟩, met⟩

/-! ## All at once -/

section AllAtOnce

/-- Send every item on its own, and hand back those whose attempts are exhausted. -/
def sendAll (outcome : Item -> Outcome) (items : List Item) : Flushed Item :=
  ⟨items.filter (fun item => decide (outcome item = .exhausted)),
    (items.filter (fun item => decide (outcome item ≠ .unsent))).map
      (fun item => ⟨item, decide (outcome item = .accepted)⟩)⟩

variable {outcome : Item -> Outcome} {items : List Item} {item : Item}

theorem mem_failed_sendAll :
    item ∈ (sendAll outcome items).failed <-> item ∈ items ∧ outcome item = .exhausted := by
  rw [sendAll, List.mem_filter, decide_eq_true_eq]

theorem attempted_sendAll :
    (sendAll outcome items).Attempted item <-> item ∈ items ∧ outcome item ≠ .unsent := by
  constructor
  · rintro ⟨accepted, member⟩
    rcases List.mem_map.mp member with ⟨sent, kept, same⟩
    cases same
    exact ⟨(List.mem_filter.mp kept).1, of_decide_eq_true (List.mem_filter.mp kept).2⟩
  · rintro ⟨listed, sent⟩
    exact ⟨_, List.mem_map_of_mem (List.mem_filter.mpr ⟨listed, decide_eq_true sent⟩)⟩

theorem accepted_sendAll :
    (sendAll outcome items).Accepted item <-> item ∈ items ∧ outcome item = .accepted := by
  constructor
  · intro member
    rcases List.mem_map.mp member with ⟨sent, kept, same⟩
    injection same with item accepted
    subst item
    exact ⟨(List.mem_filter.mp kept).1, of_decide_eq_true accepted⟩
  · rintro ⟨listed, accepted⟩
    have sent : outcome item ≠ .unsent := by
      rw [accepted]
      exact Outcome.noConfusion
    refine List.mem_map.mpr ⟨item, List.mem_filter.mpr ⟨listed, decide_eq_true sent⟩, ?_⟩
    rw [decide_eq_true accepted]

end AllAtOnce

/-! ## In order -/

section InOrder

variable (fails accepts : Item -> Bool)

/-- The loop over the items: the first that fails hands back all of `whole`.  One that does
not fail need not be accepted. -/
def sendLoop (whole : List Item) : List Item -> Flushed Item
  | [] => Flushed.nothing
  | item :: rest =>
    if fails item then ⟨whole, [⟨item, false⟩]⟩
    else
      let later := sendLoop whole rest
      ⟨later.failed, ⟨item, accepts item⟩ :: later.sent⟩

/-- Send the items in order, up to the first that fails. -/
def sendInOrder (items : List Item) : Flushed Item := sendLoop fails accepts items items

variable {fails accepts} {whole items : List Item} {item : Item}

theorem failed_sendLoop :
    (sendLoop fails accepts whole items).failed = if items.any fails then whole else [] := by
  fun_induction sendLoop with
  | case1 => rfl
  | case2 _ _ stops => rw [List.any_cons, stops, Bool.true_or, if_pos rfl]
  | case3 _ _ goesOn _ ih => rw [List.any_cons, Bool.eq_false_iff.mpr goesOn, Bool.false_or, <- ih]

theorem failed_sendInOrder :
    (sendInOrder fails accepts items).failed = if items.any fails then items else [] :=
  failed_sendLoop

/-- Items are handed back exactly when one of them fails. -/
theorem failed_sendInOrder_ne_nil_iff :
    (sendInOrder fails accepts items).failed ≠ [] <-> items.any fails = true := by
  rw [failed_sendInOrder]
  cases decided : items.any fails with
  | false => simp
  | true =>
    refine iff_of_true ?_ rfl
    rintro rfl
    cases decided

theorem accepted_sendLoop :
    (sendLoop fails accepts whole items).Accepted item <->
      item ∈ items.takeWhile (fun item => !fails item) ∧ accepts item = true := by
  fun_induction sendLoop with
  | case1 => simp
  | case2 _ _ stops => simp [Flushed.Accepted, stops]
  | case3 first _ goesOn _ ih =>
    rw [Flushed.Accepted, List.mem_cons, List.takeWhile_cons_of_pos (by simpa using goesOn),
      List.mem_cons, or_and_right, <- ih]
    refine or_congr_left ?_
    constructor
    · intro same
      injection same with item_eq taken
      exact ⟨item_eq, item_eq ▸ taken.symm⟩
    · rintro ⟨rfl, taken⟩
      rw [taken]

/-- The items that are accepted stand before the first that fails. -/
theorem accepted_sendInOrder :
    (sendInOrder fails accepts items).Accepted item <->
      item ∈ items.takeWhile (fun item => !fails item) ∧ accepts item = true :=
  accepted_sendLoop

theorem attempted_sendLoop_subset (attempted : (sendLoop fails accepts whole items).Attempted item) :
    item ∈ items := by
  fun_induction sendLoop with
  | case1 => exact absurd attempted (not_attempted_nothing item)
  | case2 =>
    rcases attempted with ⟨_, member⟩
    cases List.mem_singleton.mp member
    exact List.mem_cons_self
  | case3 first _ _ _ ih =>
    rcases attempted with ⟨accepted, member⟩
    rcases List.mem_cons.mp member with same | later
    · cases same
      exact List.mem_cons_self
    · exact List.mem_cons_of_mem first (ih ⟨accepted, later⟩)

/-- Nothing but the items is put on the wire. -/
theorem mem_of_attempted_sendInOrder
    (attempted : (sendInOrder fails accepts items).Attempted item) : item ∈ items :=
  attempted_sendLoop_subset attempted

theorem attempted_sendLoop (fine : forall earlier, earlier ∈ items.dropLast -> fails earlier = false)
    (member : item ∈ items) : (sendLoop fails accepts whole items).Attempted item := by
  fun_induction sendLoop with
  | case1 => exact absurd member List.not_mem_nil
  | case2 first rest stops =>
    cases rest with
    | nil => exact ⟨false, List.mem_singleton.mp member ▸ List.mem_cons_self⟩
    | cons => exact absurd stops (Bool.eq_false_iff.mp (fine first List.mem_cons_self))
  | case3 first rest _ _ ih =>
    rcases List.mem_cons.mp member with rfl | later
    · exact ⟨_, List.mem_cons_self⟩
    · have fineLater : forall earlier, earlier ∈ rest.dropLast -> fails earlier = false := by
        intro earlier listed
        refine fine earlier ?_
        rw [List.dropLast_cons_of_ne_nil (List.ne_nil_of_mem later)]
        exact List.mem_cons_of_mem first listed
      rcases ih fineLater later with ⟨accepted, sent⟩
      exact ⟨accepted, List.mem_cons_of_mem _ sent⟩

/-- When at most the last item fails, every item is put on the wire. -/
theorem attempted_sendInOrder
    (fine : forall earlier, earlier ∈ items.dropLast -> fails earlier = false)
    (member : item ∈ items) : (sendInOrder fails accepts items).Attempted item :=
  attempted_sendLoop fine member

end InOrder

end Foundations
end Bottlecap
