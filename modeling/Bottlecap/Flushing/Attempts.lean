import Bottlecap.Flushing.Flushers

namespace Bottlecap
namespace Flushing

open Foundations Logs

/-!
# Attempts at one request

The flushers of logs and of proxied requests try a request up to `FLUSH_RETRY_COUNT`
times, and what they hand back is tried as often once more, when `await_handles` redrives
it.  Both stop at a reply they take for an end, and they differ in which replies these
are: the one of logs takes every success, the one of proxied requests only two codes.

The attempts at a request are listed by the replies to them.
-/

section Sends

variable {Body : Type} {settle : Reply -> Option Outcome} {request : Request Body}

/-- The replies to the attempts of one `send`. -/
def sendReplies (settle : Reply -> Option Outcome) (replies : Nat -> Reply)
    (request : Request Body) : List Reply :=
  if request.clonable then received settle flushRetryCount replies else []

/-- The attempts of a flush that makes the request, and of a redrive if it is handed
back. -/
def attemptsOver (settle : Reply -> Option Outcome) (made handedBack : Bool)
    (flush redrive : Nat -> Reply) (request : Request Body) : List Reply :=
  (if made then sendReplies settle flush request else []) ++
    (if handedBack then sendReplies settle redrive request else [])

/-- The replies that there are for the attempts of a flush, and of a redrive if there can
be one. -/
def offered (again : Bool) (flush redrive : Nat -> Reply) : List Reply :=
  (List.range' 1 flushRetryCount).map flush ++
    if again then (List.range' 1 flushRetryCount).map redrive else []

theorem length_offered_le (again : Bool) (flush redrive : Nat -> Reply) :
    (offered again flush redrive).length <= 2 * flushRetryCount := by
  cases again <;> simp [offered, Nat.two_mul]

/-- A request that is handed back when the flush is exhausted is tried until one reply of
all there are settles it. -/
theorem attemptsOver_eq (never : forall reply, settle reply ≠ some .exhausted)
    {made handedBack again : Bool} {flush : Nat -> Reply} (redrive : Nat -> Reply)
    (handed : handedBack = true <->
      (made = true ∧ sendRequest settle flush request = .exhausted) ∧ again = true) :
    attemptsOver settle made handedBack flush redrive request =
      if made && request.clonable then untilSettled settle (offered again flush redrive) else [] := by
  rw [attemptsOver, sendReplies, sendReplies]
  cases made with
  | false =>
    have stays : handedBack ≠ true := fun back => nomatch (handed.mp back).1.1
    rw [if_neg stays]
    rfl
  | true =>
    cases clonable : request.clonable with
    | false => cases handedBack <;> rfl
    | true =>
      rw [sendRequest, if_pos clonable, settled_eq_exhausted_iff never] at handed
      change untilSettled settle _ ++ (if _ then untilSettled settle _ else _) = untilSettled settle _
      rw [offered, untilSettled_append]
      congr 1
      cases found : ((List.range' 1 flushRetryCount).map flush).findSome? settle with
      | none =>
        have redriven : handedBack = again :=
          Bool.eq_iff_iff.mpr (handed.trans (and_iff_right ⟨rfl, found⟩))
        rw [redriven]
        cases again <;> rfl
      | some outcome =>
        have stays : handedBack ≠ true := by
          intro back
          rw [(handed.mp back).1.2] at found
          cases found
        rw [if_neg stays]
        rfl

end Sends

/-- Nothing is sent after an attempt that was answered with a success. -/
def NotSentAgain (attempts : List Reply) : Prop :=
  attempts.Pairwise (fun earlier _ =>
    forall code, earlier = .status code -> isSuccess code = false)

/-- The attempts at a request of a flush of the logs and of the redrive of what it handed
back. -/
def LogsFlusher.attempts (flusher : LogsFlusher) (first redrive : LogsRound)
    (request : Request Bytes) : List Reply :=
  attemptsOver Flusher.settle (decide (request ∈ flusher.requests first))
    (decide (request ∈ (flusher.flush first none).failed)) (first.replies request)
    (redrive.replies request) request

/-- The attempts at a proxied request.  A redrive without a key sends nothing. -/
def ProxyFlusher.attempts {Body : Type} [DecidableEq Body] (first redrive : ProxyRound Body)
    (request : Request Body) : List Reply :=
  attemptsOver ProxyFlusher.settle (decide (request ∈ ProxyFlusher.requests first))
    (decide (request ∈ (ProxyFlusher.flush first none).failed) && redrive.getApiKey.isSome)
    (first.replies request) (redrive.replies request) request

/-- A success comes with the last reply, or it is 200 or 202 or comes after one of these. -/
def SuccessesEnd (replies : List Reply) : Prop :=
  forall before code after, replies = before ++ .status code :: after ->
    isSuccess code = true -> after = [] ∨ Exists fun ending => ending ∈ before ++ [.status code] ∧
        (ending = .status 202 ∨ ending = .status 200)

theorem notSentAgain_iff {settle : Reply -> Option Outcome} {replies : List Reply} :
    NotSentAgain (untilSettled settle replies) <->
      forall before code after, replies = before ++ .status code :: after ->
        isSuccess code = true -> after = [] ∨ Exists fun ending =>
          ending ∈ before ++ [.status code] ∧ settle ending ≠ none := by
  have kinds := @untilSettled_pairwise_iff _ settle
    (fun reply => Exists fun code => reply = .status code ∧ isSuccess code = true) replies
  simp only [not_exists, not_and, Bool.not_eq_true] at kinds
  rw [NotSentAgain, kinds]
  constructor
  · intro all before code after split success
    exact all before _ after split ⟨code, rfl, success⟩
  · rintro all before reply after split ⟨code, rfl, success⟩
    exact all before code after split success

theorem LogsFlusher.attempts_eq (flusher : LogsFlusher) (first redrive : LogsRound)
    (request : Request Bytes) :
    flusher.attempts first redrive request =
      if decide (request ∈ flusher.requests first) && request.clonable then
        untilSettled Flusher.settle (offered true (first.replies request) (redrive.replies request))
      else [] := by
  apply attemptsOver_eq (Flusher.settle_ne (by decide))
  rw [decide_eq_true_eq, decide_eq_true_eq, mem_failed_logs]
  exact (and_iff_left rfl).symm

theorem LogsFlusher.notSentAgain (flusher : LogsFlusher) (first redrive : LogsRound)
    (request : Request Bytes) : NotSentAgain (flusher.attempts first redrive request) := by
  rw [flusher.attempts_eq]
  split
  · rw [notSentAgain_iff]
    intro before code _ _ success
    refine Or.inr ⟨.status code, List.mem_append_right before List.mem_cons_self, ?_⟩
    rw [Flusher.settle, success]
    split <;> exact Option.some_ne_none _
  · exact List.Pairwise.nil

section Proxy

variable {Body : Type} [DecidableEq Body]

theorem ProxyFlusher.attempts_eq (first redrive : ProxyRound Body) (request : Request Body) :
    ProxyFlusher.attempts first redrive request =
      if decide (request ∈ ProxyFlusher.requests first) && request.clonable then
        untilSettled ProxyFlusher.settle (offered redrive.getApiKey.isSome (first.replies request)
          (redrive.replies request))
      else [] := by
  apply attemptsOver_eq (ProxyFlusher.settle_ne (by decide))
  rw [Bool.and_eq_true_iff, decide_eq_true_eq, decide_eq_true_eq, ProxyFlusher.mem_failed_flush]
  exact Iff.rfl

theorem ProxyFlusher.settle_ne_none_iff {reply : Reply} :
    ProxyFlusher.settle reply ≠ none <-> reply = .status 202 ∨ reply = .status 200 := by
  cases reply with
  | failed => simp [ProxyFlusher.settle]
  | status => simp [ProxyFlusher.settle, or_iff_not_imp_left]

theorem length_untilSettled_offered_le (settle : Reply -> Option Outcome) (sends again : Bool)
    (flush redrive : Nat -> Reply) :
    (if sends then untilSettled settle (offered again flush redrive) else []).length <=
      2 * flushRetryCount := by
  split
  · exact (untilSettled_sublist _).length_le.trans (length_offered_le again flush redrive)
  · exact Nat.zero_le _

/-- Every flush with its redrive makes at most six attempts at a request, and a log
request is not sent again after a success.  A proxied request is not, exactly if it is not
sent at all or the successes there are for it end the attempts, come last or come too late. -/
theorem sent_once_iff (flusher : LogsFlusher) (firstLogs redriveLogs : LogsRound)
    (log : Request Bytes) (first redrive : ProxyRound Body) (request : Request Body) :
    (flusher.attempts firstLogs redriveLogs log).length <= 2 * flushRetryCount ∧
      NotSentAgain (flusher.attempts firstLogs redriveLogs log) ∧
      (ProxyFlusher.attempts first redrive request).length <= 2 * flushRetryCount ∧
      (NotSentAgain (ProxyFlusher.attempts first redrive request) <->
        (request ∈ ProxyFlusher.requests first -> request.clonable = true ->
          SuccessesEnd (offered redrive.getApiKey.isSome (first.replies request)
            (redrive.replies request)))) := by
  rw [flusher.attempts_eq, ProxyFlusher.attempts_eq]
  refine ⟨length_untilSettled_offered_le .., ?_, length_untilSettled_offered_le .., ?_⟩
  · rw [<- flusher.attempts_eq]
    exact flusher.notSentAgain firstLogs redriveLogs log
  · split
    · rename_i sends
      rw [Bool.and_eq_true_iff, decide_eq_true_eq] at sends
      rw [notSentAgain_iff]
      simp only [ProxyFlusher.settle_ne_none_iff]
      exact ⟨fun ended _ _ => ended, fun all => all sends.1 sends.2⟩
    · rename_i stays
      refine iff_of_true List.Pairwise.nil (fun made clonable => absurd ?_ stays)
      exact Bool.and_eq_true_iff.mpr ⟨decide_eq_true made, clonable⟩

end Proxy

/-- A flush of one request at an endpoint that always answers the same. -/
def ProxyRound.answering (reply : Reply) : ProxyRound Nat :=
  ⟨some "", [⟨7, ""⟩], fun _ => true, fun _ _ => reply, IterationOrder.listed _⟩

/-- An endpoint that takes every request and has nothing to say gets it six times. -/
theorem accepted_request_sent_again :
    let round := ProxyRound.answering (.status 204)
    ProxyFlusher.attempts round round ⟨"", "", 7, true⟩ = List.replicate 6 (.status 204) := by
  decide

end Flushing
end Bottlecap
