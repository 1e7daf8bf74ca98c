import Bottlecap.Foundations.Lists
import Bottlecap.Telemetry.Stitch

namespace Bottlecap
namespace Telemetry

open Foundations

/-!
# What the fragment buffer holds

Every fragment that is held was rebuilt by `drop_seams`, whatever body it came from, so
that it stands in the framing which the next join strips.  A call uses the held fragment
at most once: its bytes go into the text that is parsed, or are dropped.

Which bodies a result was made from is not recorded by the source.  `Provenance` runs
the buffer beside the numbers of the calls whose bytes are in the slot.
-/

/-- The bytes begin with `[` and end with `}]`. -/
def Framed (body : Bytes) : Prop := [openBracket] <+: body ∧ framing <:+ body

/-- A payload that is being rebuilt is empty or opened. -/
def Opened (joined : Bytes) : Prop := joined = [] ∨ [openBracket] <+: joined

section Seams

variable {serde : SerdeJson} {seams final : Seams}

theorem Opened.pushEvent {joined : Bytes} (opened : Opened joined) (envelope value : Bytes) :
    [openBracket] <+: pushEvent joined envelope value := by
  rw [Telemetry.pushEvent, List.append_assoc, List.append_assoc, List.append_assoc]
  rcases opened with rfl | opened
  · exact List.prefix_append _ _
  · exact opened.trans (List.prefix_append _ _)

/-- A turn of the loop appends an event or nothing. -/
theorem Seams.step_joined {event : Event} (stepped : seams.step serde event = some final) :
    final.joined = seams.joined ∨ Exists fun envelope => Exists fun value =>
      final.joined = pushEvent seams.joined envelope value := by
  unfold Seams.step at stepped
  repeat' split at stepped
  all_goals cases stepped
  all_goals first | exact Or.inl rfl | exact Or.inr ⟨_, _, rfl⟩

theorem Opened.foldlM {events : List Event} (opened : Opened seams.joined)
    (ends : events.foldlM (Seams.step serde) seams = some final) : Opened final.joined := by
  induction events generalizing seams with
  | nil =>
    cases ends
    exact opened
  | cons event events ih =>
    rcases Option.bind_eq_some_iff.mp ends with ⟨next, stepped, rest⟩
    refine ih ?_ rest
    rcases Seams.step_joined stepped with same | ⟨envelope, value, pushed⟩
    · exact same ▸ opened
    · exact Or.inr (pushed ▸ opened.pushEvent envelope value)

/-- A body that ends on a cut piece is rebuilt with its framing. -/
theorem framed_dropSeams {body : Bytes} (cut : (dropSeams serde body).2 = true) :
    Framed (dropSeams serde body).1 := by
  unfold dropSeams at cut ⊢
  split at cut
  · cases cut
  · rename_i final ends
    rcases Option.bind_eq_some_iff.mp ends with ⟨events, _, ends⟩
    rcases Option.isSome_iff_exists.mp cut with ⟨⟨record, value⟩, found⟩
    have opened := Opened.foldlM (Or.inl rfl) ends
    simp only [Seams.body, found]
    refine ⟨(opened.pushEvent record.envelope value).trans (List.prefix_append _ _), ?_⟩
    rw [Telemetry.pushEvent, List.append_assoc]
    exact List.suffix_append _ framing

end Seams

section Calls

variable (serde : SerdeJson)

/-- What a call may leave in the slot. -/
theorem parseOrHold_held {now : Nat} {body : Bytes} {held : Fragment}
    (holds : (parseOrHold serde now body).2 = some held) :
    held.body.length <= maxFragmentBytes ∧ Framed held.body ∧
      (parseOrHold serde now body).1 = .pending := by
  unfold parseOrHold at holds ⊢
  split at holds
  · cases holds
  · split at holds
    · cases holds
    · rename_i error syntactic
      by_cases fits : (dropSeams serde body).2 ∧ (dropSeams serde body).1.length <= maxFragmentBytes
      · rw [if_pos fits] at holds
        cases holds
        rw [if_neg syntactic, if_pos fits]
        exact ⟨fits.2, framed_dropSeams fits.1, rfl⟩
      · rw [if_neg fits] at holds
        split at holds <;> cases holds

namespace FragmentBuffer

/-- The held fragment with the body joined to it, if that is not discarded. -/
def joins (now : Nat) (body : Bytes) (buffer : FragmentBuffer) : Option Bytes :=
  (buffer.fresh now).bind (fun head => (Fragment.resumedBytes body).bind (fun resumed =>
    match (parseOrHold serde now (head.join resumed)).1 with
    | .discarded => none
    | _ => some (head.join resumed)))

/-- A call parses the joined text, or the body alone. -/
theorem stitch_eq (now : Nat) (body : Bytes) (buffer : FragmentBuffer) :
    buffer.stitch serde now body =
      let parsed := parseOrHold serde now ((buffer.joins serde now body).getD body)
      (parsed.1, ⟨parsed.2⟩) := by
  unfold stitch joins
  cases buffer.fresh now with
  | none => rfl
  | some head =>
    cases Fragment.resumedBytes body with
    | none => rfl
    | some resumed =>
      cases parsed : parseOrHold serde now (head.join resumed) with
      | mk result slot => cases result <;> simp [parsed]

end FragmentBuffer

/-- The buffer with the numbers of the calls whose bodies the held fragment was made
from, and those of every complete result. -/
structure Provenance where
  buffer : FragmentBuffer
  sources : List Nat
  completed : List (List Nat)
  calls : Nat

namespace Provenance

def initial : Provenance := ⟨⟨none⟩, [], [], 0⟩

/-- The calls whose bodies the next call parses. -/
def contributors (state : Provenance) (call : Nat × Bytes) : List Nat :=
  match state.buffer.joins serde call.1 call.2 with
  | some _ => state.sources ++ [state.calls]
  | none => [state.calls]

/-- One call of `stitch`, at an instant. -/
def stitch (state : Provenance) (call : Nat × Bytes) : Provenance :=
  let contributors := state.contributors serde call
  let stitched := state.buffer.stitch serde call.1 call.2
  match stitched.1 with
  | .complete _ => ⟨stitched.2, [], state.completed ++ [contributors], state.calls + 1⟩
  | .pending => ⟨stitched.2, contributors, state.completed, state.calls + 1⟩
  | .discarded => ⟨stitched.2, [], state.completed, state.calls + 1⟩

/-- The calls whose bodies were used, in results and then in what is held, and the next
one. -/
def used (state : Provenance) : List Nat :=
  state.completed.flatten ++ (state.sources ++ [state.calls])

/-- A call uses its own body and, before it, some of those that were used already. -/
theorem used_stitch (state : Provenance) (call : Nat × Bytes) :
    Exists fun earlier => List.Sublist earlier state.used ∧
      (state.stitch serde call).used = earlier ++ [state.calls + 1] := by
  have contributes : List.Sublist (state.contributors serde call)
      (state.sources ++ [state.calls]) := by
    unfold contributors
    split
    · exact List.Sublist.refl _
    · exact List.sublist_append_right _ _
  have kept := (List.Sublist.refl state.completed.flatten).append contributes
  unfold stitch
  simp only
  split
  · refine ⟨_, kept, ?_⟩
    simp only [used, List.flatten_append, List.flatten_singleton, List.nil_append]
  · refine ⟨_, kept, ?_⟩
    simp only [used, List.append_assoc]
  · exact ⟨_, List.sublist_append_left _ _, rfl⟩

theorem used_lt {state : Provenance} (chronological : state.used.Pairwise (· < ·))
    (call : Nat × Bytes) : (state.stitch serde call).used.Pairwise (· < ·) := by
  rcases used_stitch serde state call with ⟨earlier, fewer, used⟩
  rw [used]
  refine List.pairwise_append.mpr ⟨chronological.sublist fewer, List.pairwise_singleton _ _, ?_⟩
  intro source member next last
  rw [List.mem_singleton.mp last]
  have inside := fewer.mem member
  rw [Provenance.used, <- List.append_assoc] at inside chronological
  rcases List.mem_append.mp inside with before | same
  · exact Nat.lt_succ_of_lt ((List.pairwise_append.mp chronological).2.2 source before _
      (List.mem_singleton_self _))
  · rw [List.mem_singleton.mp same]
    exact Nat.lt_succ_self _

/-- After every call of every run the slot is empty or holds a framed fragment within
the limit, the latter only if the call returned `Pending`, and no body is used by two
complete results. -/
theorem fragments_framed_and_used_once (calls : List (Nat × Bytes)) (now : Nat) (body : Bytes) :
    let state := calls.foldl (stitch serde) initial
    let stitched := state.buffer.stitch serde now body
    (forall held, stitched.2.held = some held -> held.body.length <= maxFragmentBytes ∧
        Framed held.body ∧ stitched.1 = .pending) ∧
      (state.stitch serde (now, body)).completed.flatten.Nodup := by
  intro state stitched
  refine ⟨?_, ?_⟩
  · intro held holds
    simp only [stitched, FragmentBuffer.stitch_eq] at holds ⊢
    exact parseOrHold_held serde holds
  · have chronological : state.used.Pairwise (· < ·) :=
      foldl_invariant (fun state => state.used.Pairwise (· < ·)) (stitch serde) calls
        (fun _ call _ ordered => used_lt serde ordered call) initial (List.pairwise_singleton _ _)
    have after := used_lt serde chronological (now, body)
    exact (List.pairwise_append.mp after).1.imp Nat.ne_of_lt

end Provenance
end Calls

end Telemetry
end Bottlecap
