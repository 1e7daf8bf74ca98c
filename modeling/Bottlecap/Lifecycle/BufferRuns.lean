import Bottlecap.Foundations.Machine
import Bottlecap.Lifecycle.Context

namespace Bottlecap
namespace Lifecycle

open Foundations

/-!
# Contexts with distinct request ids

A context enters the buffer through `insert`, which has two paths.  A buffer with
room removes the context of the same request first.  A full buffer drops its oldest
context, whichever request that is of, and does not look for another one: an id that
stands further back is then in the buffer twice, and a lookup finds the older
context.

The results are about every sequence of the operations that change which ids are in
the buffer.
-/

namespace ContextBuffer

/-- The operations that create, rename or remove a context. -/
inductive Operation where
  | startContext (now : Int) (requestId : String) (invocationSpan : Span)
  | updateEmptyContextRequestId (requestId : String)
  | remove (requestId : String)

def perform (contexts : ContextBuffer) : Operation -> ContextBuffer
  | .startContext now requestId invocationSpan =>
    contexts.startContext now requestId invocationSpan
  | .updateEmptyContextRequestId requestId =>
    (contexts.updateEmptyContextRequestId requestId).2
  | .remove requestId => contexts.remove requestId

def ids (contexts : ContextBuffer) : List String := contexts.buffer.map Context.requestId

/-- The context that `start_context` creates. -/
def created (now : Int) (requestId : String) (invocationSpan : Span) : Context :=
  { createdAt := now
    requestId := requestId
    invocationSpan := setRequestIdTag requestId invocationSpan }

structure Sound (contexts : ContextBuffer) : Prop where
  distinct : contexts.ids.Nodup
  bounded : contexts.size <= contexts.capacity

/-- A lookup right after the start of a context returns that context. -/
def Finds (contexts : ContextBuffer) : Operation -> Prop
  | .startContext now requestId invocationSpan =>
    (contexts.startContext now requestId invocationSpan).get requestId =
      some (created now requestId invocationSpan)
  | _ => True

/-- The empty context is given an id that no context has. -/
def Fresh (contexts : ContextBuffer) : Operation -> Prop
  | .updateEmptyContextRequestId requestId => requestId ∉ contexts.ids
  | _ => True

/-- A context starts in a buffer with room, or in a full one in which the request has
no context but perhaps the oldest. -/
def HasRoom (contexts : ContextBuffer) : Operation -> Prop
  | .startContext _ requestId _ =>
    contexts.size < contexts.capacity ∨
      (contexts.buffer ≠ [] ∧ requestId ∉ contexts.ids.tail)
  | _ => True

/-! ## The operations -/

variable {contexts : ContextBuffer}

theorem length_ids (contexts : ContextBuffer) : contexts.ids.length = contexts.size :=
  List.length_map _

variable (requestId : String)

theorem map_eraseP_named (contexts : List Context) :
    (contexts.eraseP (named requestId)).map Context.requestId =
      (contexts.map Context.requestId).erase requestId := by
  rw [List.erase_eq_eraseP, List.eraseP_map]
  congr 2
  funext context
  exact Bool.beq_comm

theorem ids_remove (contexts : ContextBuffer) :
    (contexts.remove requestId).ids = contexts.ids.erase requestId :=
  map_eraseP_named requestId contexts.buffer

/-- Removing a context that is not there changes nothing, so `insert` need not look
for it first. -/
theorem buffer_startContext_of_room (now : Int) (invocationSpan : Span)
    (room : contexts.size ≠ contexts.capacity) :
    (contexts.startContext now requestId invocationSpan).buffer =
      contexts.buffer.eraseP (named requestId) ++ [created now requestId invocationSpan] := by
  unfold startContext insert
  rw [if_neg room]
  split
  · rfl
  · rename_i missing
    have none_ : contexts.buffer.find? (named requestId) = none :=
      Option.not_isSome_iff_eq_none.mp missing
    rw [List.eraseP_of_forall_not (List.find?_eq_none.mp none_)]
    rfl

theorem buffer_startContext_of_full (now : Int) (invocationSpan : Span)
    (full : contexts.size = contexts.capacity) :
    (contexts.startContext now requestId invocationSpan).buffer =
      contexts.buffer.tail ++ [created now requestId invocationSpan] := by
  unfold startContext insert
  rw [if_pos full]
  rfl

theorem capacity_startContext (now : Int) (invocationSpan : Span)
    (contexts : ContextBuffer) :
    (contexts.startContext now requestId invocationSpan).capacity = contexts.capacity := by
  unfold startContext insert
  split
  · rfl
  · simp only
    split <;> rfl

/-- A lookup of the appended context sees it exactly if no context before it has its
id. -/
theorem find?_append_created {before : List Context} (now : Int) (invocationSpan : Span)
    (absent : requestId ∉ before.map Context.requestId) :
    (before ++ [created now requestId invocationSpan]).find? (named requestId) =
      some (created now requestId invocationSpan) := by
  have none_ : before.find? (named requestId) = none := by
    rw [List.find?_eq_none]
    intro context member same
    exact absent (List.mem_map.mpr ⟨context, member, eq_of_beq same⟩)
  rw [List.find?_append, none_, List.find?_singleton]
  exact if_pos (beq_self_eq_true requestId)

/-! ## One operation -/

theorem sound_remove (sound : contexts.Sound) :
    (contexts.remove requestId).Sound := by
  constructor
  · rw [ids_remove]
    exact sound.distinct.erase requestId
  · exact Nat.le_trans List.length_eraseP_le sound.bounded

theorem sound_updateEmpty (sound : contexts.Sound) {requestId : String}
    (fresh : requestId ∉ contexts.ids) :
    (contexts.updateEmptyContextRequestId requestId).2.Sound := by
  have renamed : (contexts.updateEmptyContextRequestId requestId).2.ids =
      modifyFirst (fun id => id == "") (fun _ => requestId) contexts.ids := by
    apply map_modifyFirst_comm
    · intro context
      rfl
    · intro context
      rfl
  constructor
  · rw [renamed]
    exact nodup_modifyFirst_const sound.distinct fresh
  · rw [<- length_ids, renamed, length_modifyFirst, length_ids]
    exact sound.bounded

/-- With room, the request has exactly one context afterwards, the new one. -/
theorem start_of_room (sound : contexts.Sound) (now : Int) (invocationSpan : Span)
    (room : contexts.size < contexts.capacity) :
    (contexts.startContext now requestId invocationSpan).Sound ∧
      (contexts.startContext now requestId invocationSpan).get requestId =
        some (created now requestId invocationSpan) := by
  have buffer := buffer_startContext_of_room requestId now invocationSpan (Nat.ne_of_lt room)
  have absent : requestId ∉ (contexts.buffer.eraseP (named requestId)).map Context.requestId := by
    rw [map_eraseP_named]
    exact sound.distinct.not_mem_erase
  refine ⟨⟨?_, ?_⟩, ?_⟩
  · unfold ids
    rw [buffer, List.map_append]
    refine nodup_snoc ?_ absent
    rw [map_eraseP_named]
    exact sound.distinct.erase requestId
  · have shorter : (contexts.buffer.eraseP (named requestId)).length <= contexts.size :=
      List.length_eraseP_le
    rw [size, buffer, List.length_append, List.length_singleton, capacity_startContext]
    omega
  · rw [get, buffer]
    exact find?_append_created requestId now invocationSpan absent

/-- In a full buffer, exactly if it only has to give up a context of another
request, or the oldest. -/
theorem start_of_full (sound : contexts.Sound) (now : Int) (invocationSpan : Span)
    (full : contexts.size = contexts.capacity) :
    ((contexts.startContext now requestId invocationSpan).Sound ∧
      (contexts.startContext now requestId invocationSpan).get requestId =
        some (created now requestId invocationSpan)) <->
      contexts.buffer ≠ [] ∧ requestId ∉ contexts.ids.tail := by
  have buffer := buffer_startContext_of_full requestId now invocationSpan full
  have ids_eq : (contexts.startContext now requestId invocationSpan).ids =
      contexts.ids.tail ++ [requestId] := by
    unfold ids
    rw [buffer, List.map_append, List.map_tail]
    rfl
  constructor
  · rintro ⟨after, _⟩
    refine ⟨?_, ?_⟩
    · intro empty
      have bounded := after.bounded
      rw [capacity_startContext, <- full, size, size, buffer, empty] at bounded
      exact absurd bounded (Nat.not_succ_le_zero 0)
    · intro again
      have distinct := after.distinct
      rw [ids_eq] at distinct
      exact (List.nodup_append.mp distinct).2.2 requestId again requestId List.mem_cons_self rfl
  · rintro ⟨nonempty, absent⟩
    have positive : 0 < contexts.size := List.length_pos_iff.mpr nonempty
    refine ⟨⟨?_, ?_⟩, ?_⟩
    · rw [ids_eq]
      exact nodup_snoc (sound.distinct.sublist (List.tail_sublist _)) absent
    · rw [capacity_startContext, <- length_ids, ids_eq, List.length_append, List.length_tail, length_ids,
        List.length_singleton]
      omega
    · rw [get, buffer]
      apply find?_append_created
      rw [List.map_tail]
      exact absent

/-- From a sound buffer an operation with a fresh id leads to a sound one, and a
start is found, exactly if it has room. -/
theorem sound_perform_iff (sound : contexts.Sound) {operation : Operation}
    (fresh : contexts.Fresh operation) :
    (contexts.perform operation).Sound ∧ contexts.Finds operation <->
      contexts.HasRoom operation := by
  cases operation with
  | startContext now requestId invocationSpan =>
    rcases Nat.lt_or_eq_of_le sound.bounded with room | full
    · exact ⟨fun _ => Or.inl room, fun _ => start_of_room requestId sound now invocationSpan room⟩
    · refine (start_of_full requestId sound now invocationSpan full).trans ?_
      constructor
      · exact Or.inr
      · rintro (room | kept)
        · exact absurd full (Nat.ne_of_lt room)
        · exact kept
  | updateEmptyContextRequestId =>
    exact ⟨fun _ => trivial, fun _ => ⟨sound_updateEmpty sound fresh, trivial⟩⟩
  | remove requestId => exact ⟨fun _ => trivial, fun _ => ⟨sound_remove requestId sound, trivial⟩⟩

/-! ## Runs -/

theorem sound_withCapacity (capacity : Nat) : (withCapacity capacity).Sound :=
  ⟨List.nodup_nil, Nat.zero_le capacity⟩

/-- Along every sequence of operations from an empty buffer the ids are distinct, the
capacity is kept and every context is found right after its start, exactly if every
start has room. -/
theorem contexts_distinct_iff (capacity : Nat) (operations : List Operation)
    (fresh : Machine.Along perform Fresh (withCapacity capacity) operations) :
    Machine.Always perform Sound (withCapacity capacity) operations ∧
        Machine.Along perform Finds (withCapacity capacity) operations <->
      Machine.Along perform HasRoom (withCapacity capacity) operations := by
  have step : forall (contexts : ContextBuffer) (operation : Operation), True ->
      contexts.Sound ->
      ((contexts.perform operation).Sound ∧
          (contexts.Finds operation ∧ contexts.Fresh operation) <->
        contexts.HasRoom operation ∧ contexts.Fresh operation) := by
    intro contexts operation _ sound
    rw [<- and_assoc]
    exact and_congr_left (sound_perform_iff sound)
  have run := Machine.always_and_along_iff (fun _ _ _ => trivial) step trivial
    (sound_withCapacity capacity) operations
  rw [Machine.along_and, Machine.along_and, <- and_assoc] at run
  exact (and_iff_left fresh).symm.trans (run.trans (and_iff_left fresh))

/-- The init phase, two invocations, and the older one again. -/
theorem contexts_distinct_iff_renamed :
    let operations := [.startContext 0 "" {}, .updateEmptyContextRequestId "r1",
      .startContext 1 "r2" {}, .startContext 2 "r1" {}]
    Machine.Always perform Sound (withCapacity 2) operations ∧
      Machine.Along perform Finds (withCapacity 2) operations := by
  intro operations
  have fresh : Machine.Along perform Fresh (withCapacity 2) operations :=
    ⟨trivial, show "r1" ∉ [""] by decide, trivial, trivial, trivial⟩
  refine (contexts_distinct_iff 2 operations fresh).mpr
    ⟨Or.inl (by decide), trivial, Or.inl (by decide), Or.inr ⟨List.cons_ne_nil _ _, ?_⟩, trivial⟩
  decide

/-! ## A full buffer -/

/-- Starts of different requests fill the buffer in order. -/
theorem ids_starts (names : List String) (contexts : ContextBuffer) (sound : contexts.Sound)
    (distinct : (contexts.ids ++ names).Nodup)
    (fits : contexts.size + names.length <= contexts.capacity) :
    let filled := (names.map (fun name => .startContext 0 name {})).foldl perform contexts
    filled.Sound ∧ filled.ids = contexts.ids ++ names ∧ filled.capacity = contexts.capacity := by
  induction names generalizing contexts with
  | nil => exact ⟨sound, (List.append_nil _).symm, rfl⟩
  | cons name _ ih =>
    have room : contexts.size < contexts.capacity := by
      rw [List.length_cons] at fits
      omega
    have absent : name ∉ contexts.ids := fun member =>
      (List.nodup_append.mp distinct).2.2 name member name List.mem_cons_self rfl
    have ids_eq : (contexts.startContext 0 name {}).ids = contexts.ids ++ [name] := by
      rw [ids, buffer_startContext_of_room name 0 {} (Nat.ne_of_lt room), List.map_append,
        map_eraseP_named]
      exact congrArg (fun kept => kept ++ [name]) (List.erase_of_not_mem absent)
    have capacity := capacity_startContext name 0 {} contexts
    have later := ih (contexts.startContext 0 name {}) (start_of_room name sound 0 {} room).1
      (by rw [ids_eq, List.append_assoc]; exact distinct)
      (by rw [<- length_ids, ids_eq, capacity, List.length_append, length_ids]
          rw [List.length_cons] at fits
          rw [List.length_singleton]
          omega)
    rw [ids_eq, List.append_assoc, capacity] at later
    exact later

/-- A name for each number. -/
def requestName (index : Nat) : String := String.ofList (List.replicate (index + 1) 'r')

theorem nodup_requestNames (count : Nat) : ((List.range count).map requestName).Nodup := by
  refine List.Nodup.map ?_ List.nodup_range
  intro first second same
  have lengths := congrArg (fun name => name.toList.length) same
  simp only [requestName, String.toList_ofList, List.length_replicate] at lengths
  omega

def fill (count : Nat) : List Operation :=
  ((List.range count).map requestName).map (fun name => .startContext 0 name {})

/-- The buffer is filled, and the last of the requests is started once more. -/
def refill (count : Nat) : List Operation :=
  fill count ++ [.startContext 1 (requestName (count - 1)) {}]

theorem fresh_refill (count : Nat) (contexts : ContextBuffer) :
    Machine.Along perform Fresh contexts (refill count) := by
  apply Machine.along_of_forall
  intro operation member contexts
  rcases List.mem_append.mp member with filling | again
  · rcases List.mem_map.mp filling with ⟨name, _, same⟩
    rw [<- same]
    trivial
  · rw [List.mem_singleton.mp again]
    trivial

/-- The request is then in the buffer twice, or is not found. -/
theorem not_sound_refill {count : Nat} (several : 2 <= count) :
    ¬ (Machine.Always perform Sound (withCapacity count) (refill count) ∧
      Machine.Along perform Finds (withCapacity count) (refill count)) := by
  rintro ⟨always, finds⟩
  have names : ((List.range count).map requestName).length = count := by
    rw [List.length_map, List.length_range]
  rcases ids_starts ((List.range count).map requestName) (withCapacity count)
    (sound_withCapacity count) (nodup_requestNames count)
    (Nat.le_of_eq ((Nat.zero_add _).trans names)) with ⟨sound, ids_eq, capacity⟩
  have full : ((fill count).foldl perform (withCapacity count)).size =
      ((fill count).foldl perform (withCapacity count)).capacity := by
    rw [<- length_ids, fill, ids_eq, capacity]
    exact names
  have last := always.last
  rw [refill, List.foldl_append, List.foldl_cons] at last
  have found := (Machine.along_append.mp finds).2.1
  apply ((start_of_full (requestName (count - 1)) sound 1 {} full).mp ⟨last, found⟩).2
  rw [ids_eq]
  obtain ⟨more, rfl⟩ : Exists fun more => count = more + 1 := ⟨count - 1, by omega⟩
  have positive : 0 < more := Nat.le_of_succ_le_succ several
  show requestName more ∈ ((List.range (more + 1)).map requestName).tail
  rw [List.range_succ_eq_map, List.map_cons, List.map_map]
  exact List.mem_map.mpr ⟨more - 1, List.mem_range.mpr (Nat.sub_lt positive Nat.one_pos),
    congrArg requestName (Nat.succ_pred_eq_of_pos positive)⟩

theorem not_always_sound {capacity : Nat} (several : 2 <= capacity) :
    ¬ forall operations : List Operation,
      Machine.Along perform Fresh (withCapacity capacity) operations ->
      Machine.Always perform Sound (withCapacity capacity) operations ∧
        Machine.Along perform Finds (withCapacity capacity) operations := by
  intro always
  exact not_sound_refill several (always (refill capacity) (fresh_refill capacity _))

/-- Five hundred requests are started, and the last of them once more. -/
theorem restarted_in_full_buffer :
    ¬ forall operations : List Operation,
      Machine.Along perform Fresh ContextBuffer.default operations ->
      Machine.Always perform Sound ContextBuffer.default operations ∧
        Machine.Along perform Finds ContextBuffer.default operations :=
  not_always_sound (show 2 <= 500 by decide)

end ContextBuffer
end Lifecycle
end Bottlecap
