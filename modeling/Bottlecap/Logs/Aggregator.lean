import Bottlecap.Foundations.Draining
import Bottlecap.Foundations.Slices

namespace Bottlecap
namespace Logs

open Foundations

/-!
# The logs aggregator

`logs/aggregator.rs` and the command loop of `logs/aggregator_service.rs`.  A batch
is filled from the front of the queue until it has its number of entries or the next
log does not fit.  `GetBatches` asks for batches until one is empty.

A log that does not fit behind the opening bracket of an empty batch is put back and
the batch is empty, so the logs in front of the first such log are delivered and all
others stay.
-/

/-- `std::mem::take` leaves the buffer empty after every call, and `new` starts so.  A log
above `max_log_size_bytes` is reported as a warning and otherwise treated like any other. -/
structure Aggregator where
  messages : List String
  maxBatchEntriesSize : Nat
  maxContentSizeBytes : Nat
  maxLogSizeBytes : Nat
  buffer : Bytes
  taken : buffer = []

namespace Aggregator

/-- `Aggregator::new` -/
def new (maxBatchEntriesSize maxContentSizeBytes maxLogSizeBytes : Nat) : Aggregator :=
  ⟨[], maxBatchEntriesSize, maxContentSizeBytes, maxLogSizeBytes, [], rfl⟩

/-- `Aggregator::default` -/
def default : Aggregator := new 1000 (5 * 1024 * 1024) (1024 * 1024)

def addBatch (logs : List String) (aggregator : Aggregator) : Aggregator :=
  { aggregator with messages := aggregator.messages ++ logs }

/-- `log.len()` -/
def len (log : String) : Nat := (ascii log).length

/-- The loop of `get_batch` with the entries that may still be added: the messages it
leaves and the buffer. -/
def fill (maxContentSizeBytes : Nat) : Nat -> List String -> Bytes -> List String × Bytes
  | 0, messages, buffer => (messages, buffer)
  | _ + 1, [], buffer => ([], buffer)
  | entries + 1, log :: rest, buffer =>
    if maxContentSizeBytes < buffer.length + len log then (log :: rest, buffer)
    else fill maxContentSizeBytes entries rest (buffer ++ ascii log ++ [comma])

/-- The last comma becomes the closing bracket, or the opening bracket is removed. -/
def close (buffer : Bytes) : Bytes :=
  if 1 < buffer.length then buffer.dropLast ++ [closeBracket] else buffer.dropLast

def getBatch (aggregator : Aggregator) : Bytes × Aggregator :=
  let (messages, buffer) := fill aggregator.maxContentSizeBytes aggregator.maxBatchEntriesSize
    aggregator.messages (aggregator.buffer ++ [openBracket])
  (close buffer, { aggregator with messages := messages, buffer := [], taken := rfl })

/-! ## The loop of `GetBatches` -/

structure Collection where
  batches : List Bytes
  currentBatch : Bytes
  aggregator : Aggregator

/-- `while !current_batch.is_empty()` -/
def Collection.continues (collection : Collection) : Bool := !collection.currentBatch.isEmpty

def Collection.next (collection : Collection) : Collection :=
  let (batch, aggregator) := collection.aggregator.getBatch
  ⟨collection.batches ++ [collection.currentBatch], batch, aggregator⟩

def begin (aggregator : Aggregator) : Collection :=
  let (batch, aggregator) := aggregator.getBatch
  ⟨[], batch, aggregator⟩

/-- `AggregatorCommand::GetBatches` with the number of iterations its loop may take. -/
def getBatches (fuel : Nat) (aggregator : Aggregator) : Option (List Bytes × Aggregator) :=
  (whileLoop Collection.continues Collection.next fuel aggregator.begin).map
    (fun collection => (collection.batches, collection.aggregator))

/-! ## One batch -/

/-- The texts of some logs, each with a comma behind it. -/
def entriesOf (logs : List String) : Bytes := logs.flatMap (fun log => ascii log ++ [comma])

/-- The batch of some logs. -/
def batchOf (logs : List String) : Bytes :=
  [openBracket] ++ List.intercalate [comma] (logs.map ascii) ++ [closeBracket]

/-- The log fits into an empty batch. -/
def Fits (maxContentSizeBytes : Nat) (log : String) : Prop := 1 + len log <= maxContentSizeBytes

instance (maxContentSizeBytes : Nat) (log : String) : Decidable (Fits maxContentSizeBytes log) :=
  inferInstanceAs (Decidable (1 + len log <= maxContentSizeBytes))

theorem length_entriesOf_cons (log : String) (rest : List String) :
    (entriesOf (log :: rest)).length = len log + 1 + (entriesOf rest).length := by
  simp only [entriesOf, len, List.flatMap_cons, List.length_append, List.length_singleton]

theorem entriesOf_ne_nil (log : String) (rest : List String) : entriesOf (log :: rest) ≠ [] := by
  intro empty
  have length := length_entriesOf_cons log rest
  rw [empty, List.length_nil] at length
  omega

theorem dropLast_entriesOf (log : String) (rest : List String) :
    (entriesOf (log :: rest)).dropLast = List.intercalate [comma] ((log :: rest).map ascii) := by
  induction rest generalizing log with
  | nil =>
    rw [entriesOf, List.flatMap_cons, List.flatMap_nil, List.append_nil, List.dropLast_concat]
    simp only [List.map_cons, List.map_nil, List.intercalate_singleton]
  | cons second rest ih =>
    have nonempty := entriesOf_ne_nil second rest
    calc
      (entriesOf (log :: second :: rest)).dropLast
          = ((ascii log ++ [comma]) ++ entriesOf (second :: rest)).dropLast := rfl
      _ = (ascii log ++ [comma]) ++ (entriesOf (second :: rest)).dropLast :=
          List.dropLast_append_of_ne_nil nonempty
      _ = (ascii log ++ [comma]) ++ List.intercalate [comma] ((second :: rest).map ascii) := by
          rw [ih second]
      _ = List.intercalate [comma] ((log :: second :: rest).map ascii) := by
          rw [List.append_assoc]
          rfl

theorem close_entriesOf {logs : List String} (some_log : logs ≠ []) :
    close ([openBracket] ++ entriesOf logs) = batchOf logs := by
  cases logs with
  | nil => exact absurd rfl some_log
  | cons log rest =>
    have length := length_entriesOf_cons log rest
    have nonempty := entriesOf_ne_nil log rest
    have long : 1 < ([openBracket] ++ entriesOf (log :: rest)).length := by
      rw [List.length_append, List.length_singleton]
      omega
    rw [close, if_pos long, List.dropLast_append_of_ne_nil nonempty, dropLast_entriesOf]
    rfl

theorem batchOf_ne_nil (logs : List String) : batchOf logs ≠ [] := by
  intro empty
  cases empty

/-- What the loop of `get_batch` takes: logs from the front, each of which fits.  It stops
at the number of entries, at the end of the queue, or at a log that does not fit. -/
theorem fill_spec (maxContentSizeBytes entries : Nat) (messages : List String) (buffer : Bytes) :
    Exists fun logs =>
      (fill maxContentSizeBytes entries messages buffer).2 = buffer ++ entriesOf logs ∧
      logs ++ (fill maxContentSizeBytes entries messages buffer).1 = messages ∧
      logs.length <= entries ∧
      (forall log, log ∈ logs -> buffer.length + len log <= maxContentSizeBytes) ∧
      (logs = [] -> entries = 0 ∨ messages = [] ∨
        Exists fun log => log ∈ messages.head? ∧
          maxContentSizeBytes < buffer.length + len log) := by
  fun_induction fill with
  | case1 _ buffer =>
    exact ⟨[], (List.append_nil buffer).symm, rfl, Nat.le_refl 0, nofun, fun _ => Or.inl rfl⟩
  | case2 _ buffer =>
    exact ⟨[], (List.append_nil buffer).symm, rfl, Nat.zero_le _, nofun,
      fun _ => Or.inr (Or.inl rfl)⟩
  | case3 _ log _ buffer tooLong =>
    exact ⟨[], (List.append_nil buffer).symm, rfl, Nat.zero_le _, nofun,
      fun _ => Or.inr (Or.inr ⟨log, rfl, tooLong⟩)⟩
  | case4 _ log _ buffer fits ih =>
    rcases ih with ⟨logs, filled, split, few, fit, _⟩
    refine ⟨log :: logs, ?_, ?_, Nat.succ_le_succ few,
      List.forall_mem_cons.mpr ⟨Nat.le_of_not_lt fits, ?_⟩, nofun⟩
    · rw [filled, entriesOf, entriesOf, List.flatMap_cons]
      simp only [List.append_assoc]
    · rw [List.cons_append, split]
    · intro other later
      have room := fit other later
      simp only [List.length_append] at room
      omega

/-- The first log of the queue fits, if there is one. -/
def HeadFits (aggregator : Aggregator) : Prop :=
  forall log, log ∈ aggregator.messages.head? -> Fits aggregator.maxContentSizeBytes log

/-- A batch is empty exactly if nothing was taken, and then there is nothing to take or
the first log does not fit. -/
theorem getBatch_spec (aggregator : Aggregator) (positive : 0 < aggregator.maxBatchEntriesSize) :
    Exists fun logs => logs ++ aggregator.getBatch.2.messages = aggregator.messages ∧
      logs.length <= aggregator.maxBatchEntriesSize ∧
      (forall log, log ∈ logs -> Fits aggregator.maxContentSizeBytes log) ∧
      ((logs ≠ [] ∧ aggregator.getBatch.1 = batchOf logs) ∨
        (logs = [] ∧ aggregator.getBatch.1 = [] ∧
          (aggregator.messages = [] ∨ ¬ aggregator.HeadFits))) := by
  have start : aggregator.buffer ++ [openBracket] = [openBracket] := by
    rw [aggregator.taken, List.nil_append]
  rcases fill_spec aggregator.maxContentSizeBytes aggregator.maxBatchEntriesSize
    aggregator.messages [openBracket] with ⟨logs, filled, split, few, fit, stopped⟩
  refine ⟨logs, ?_, few, fit, ?_⟩
  · rw [getBatch, start]
    exact split
  · have batch : aggregator.getBatch.1 = close ([openBracket] ++ entriesOf logs) := by
      change close (fill _ _ _ (aggregator.buffer ++ [openBracket])).2 = _
      rw [start, filled]
    by_cases empty : logs = []
    · refine Or.inr ⟨empty, ?_, ?_⟩
      · rw [batch, empty]
        rfl
      · rcases stopped empty with none | none | ⟨log, first, tooLong⟩
        · omega
        · exact Or.inl none
        · refine Or.inr (fun fits => ?_)
          have room : 1 + len log <= aggregator.maxContentSizeBytes := fits log first
          exact absurd tooLong (Nat.not_lt.mpr room)
    · exact Or.inl ⟨empty, batch.trans (close_entriesOf empty)⟩

/-! ## The length of a batch -/

/-- Some logs from the front of the queue, behind the opening bracket and with the commas
between them, take `length` bytes. -/
def Fills (length entries : Nat) (messages : List String) : Prop :=
  Exists fun count => 0 < count ∧ count <= entries ∧ count <= messages.length ∧
    (openBracket :: List.intercalate [comma] ((messages.take count).map ascii)).length = length

theorem length_opened {logs : List String} (some_log : logs ≠ []) :
    (openBracket :: List.intercalate [comma] (logs.map ascii)).length =
      (entriesOf logs).length := by
  cases logs with
  | nil => exact absurd rfl some_log
  | cons log rest =>
    rw [<- dropLast_entriesOf, List.length_cons, List.length_dropLast, length_entriesOf_cons]
    omega

/-- The buffer exceeds the limit by the last comma, if at all: the check of a log counts the
bytes before it and its own. -/
theorem fill_exceeds_iff (maxContentSizeBytes entries : Nat) (messages : List String)
    (buffer : Bytes) :
    maxContentSizeBytes < (fill maxContentSizeBytes entries messages buffer).2.length <->
      maxContentSizeBytes < buffer.length ∨ Exists fun count =>
        0 < count ∧ count <= entries ∧ count <= messages.length ∧
          buffer.length + (entriesOf (messages.take count)).length = maxContentSizeBytes + 1 := by
  fun_induction fill with
  | case1 =>
    refine (or_iff_left ?_).symm
    omega
  | case2 =>
    refine (or_iff_left ?_).symm
    rintro ⟨count, positive, _, few, _⟩
    exact absurd few (Nat.not_le.mpr positive)
  | case3 =>
    refine (or_iff_left ?_).symm
    rintro ⟨count, positive, _, _, exact_⟩
    rcases Nat.exists_eq_succ_of_ne_zero (Nat.ne_of_gt positive) with ⟨count, rfl⟩
    rw [List.take_succ_cons, length_entriesOf_cons] at exact_
    omega
  | case4 entries log rest buffer fits ih =>
    have length : (buffer ++ ascii log ++ [comma]).length = buffer.length + len log + 1 := by
      rw [List.length_append, List.length_append, List.length_singleton, len]
    rw [ih]
    constructor
    · rintro (filled | ⟨count, _, few, inQueue, exact_⟩)
      · refine Or.inr ⟨1, Nat.one_pos, by omega, Nat.succ_le_succ (Nat.zero_le _), ?_⟩
        rw [List.take_succ_cons, length_entriesOf_cons]
        change _ + (_ + 1 + 0) = _
        omega
      · refine Or.inr ⟨count + 1, Nat.succ_pos count, by omega, Nat.succ_le_succ inQueue, ?_⟩
        rw [List.take_succ_cons, length_entriesOf_cons]
        omega
    · rintro (filled | ⟨count, positive, few, inQueue, exact_⟩)
      · omega
      · rcases Nat.exists_eq_succ_of_ne_zero (Nat.ne_of_gt positive) with ⟨count, rfl⟩
        rw [List.take_succ_cons, length_entriesOf_cons] at exact_
        cases count with
        | zero =>
          change _ + (_ + 1 + 0) = _ at exact_
          exact Or.inl (by omega)
        | succ count =>
          exact Or.inr ⟨count + 1, Nat.succ_pos count, by omega, Nat.le_of_succ_le_succ inQueue,
            by omega⟩

theorem length_close_le_iff {limit : Nat} (positive : 0 < limit) (buffer : Bytes) :
    (close buffer).length <= limit <-> buffer.length <= limit := by
  rw [close]
  by_cases long : 1 < buffer.length
  · rw [if_pos long, List.length_append, List.length_dropLast, List.length_singleton]
    omega
  · rw [if_neg long, List.length_dropLast]
    omega

/-- A batch is within the limit exactly if no logs from the front of the queue fill the limit
before the closing bracket is written. -/
theorem batch_within_limit_iff (aggregator : Aggregator)
    (positive : 0 < aggregator.maxContentSizeBytes) :
    aggregator.getBatch.1.length <= aggregator.maxContentSizeBytes <->
      ¬ Fills aggregator.maxContentSizeBytes aggregator.maxBatchEntriesSize
        aggregator.messages := by
  have start : aggregator.buffer ++ [openBracket] = [openBracket] := by
    rw [aggregator.taken, List.nil_append]
  have exceeds := fill_exceeds_iff aggregator.maxContentSizeBytes aggregator.maxBatchEntriesSize
    aggregator.messages [openBracket]
  have fits : ¬ aggregator.maxContentSizeBytes < [openBracket].length := Nat.not_lt.mpr positive
  rw [or_iff_right fits] at exceeds
  change (close (fill _ _ _ (aggregator.buffer ++ [openBracket])).2).length <= _ <-> _
  rw [start, length_close_le_iff positive, <- Nat.not_lt, exceeds]
  refine not_congr (exists_congr fun count => and_congr_right fun some_log =>
    and_congr_right fun _ => and_congr_right fun inQueue => ?_)
  have taken : aggregator.messages.take count ≠ [] := by
    rw [<- List.length_pos_iff, List.length_take]
    omega
  rw [length_opened taken, List.length_singleton]
  omega

/-- Two short logs leave room for the bracket. -/
theorem batch_within_limit_iff_two :
    ((new 2 8 8).addBatch ["ab", "c"]).getBatch.1.length <= 8 := by
  refine (batch_within_limit_iff ((new 2 8 8).addBatch ["ab", "c"]) (by decide)).mpr ?_
  rintro ⟨count, some_log, few, _, filled⟩
  have cases_ : count = 1 ∨ count = 2 := by
    change count <= 2 at few
    omega
  rcases cases_ with rfl | rfl <;> exact absurd filled (by decide)

/-- A log that fills the limit behind the opening bracket is taken, and the closing bracket
is one byte too many. -/
theorem batch_exceeds_limit :
    ¬ forall aggregator : Aggregator, 0 < aggregator.maxBatchEntriesSize ->
      0 < aggregator.maxContentSizeBytes -> 0 < aggregator.maxLogSizeBytes ->
        aggregator.getBatch.1.length <= aggregator.maxContentSizeBytes := by
  intro always
  have within := always ((new 1 3 3).addBatch ["ab"]) (by decide) (by decide) (by decide)
  exact absurd within (by decide)

/-! ## All batches -/

/-- The batches hold the logs in order, each between one log and the number of entries. -/
def Reads (maxBatchEntriesSize : Nat) (batches : List Bytes) (logs : List String) : Prop :=
  Exists fun groups : List (List String) => batches = groups.map batchOf ∧
    groups.flatten = logs ∧
    forall group, group ∈ groups -> 1 <= group.length ∧ group.length <= maxBatchEntriesSize

/-- The queue of an aggregator with the limits of `start`. -/
def draining (start : Aggregator) (positive : 0 < start.maxBatchEntriesSize) :
    Draining Aggregator String Bytes where
  queue := messages
  getBatch := getBatch
  isEmpty := List.isEmpty
  keeps aggregator := aggregator.maxBatchEntriesSize = start.maxBatchEntriesSize ∧
    aggregator.maxContentSizeBytes = start.maxContentSizeBytes
  holds logs batch := (logs ≠ [] -> batch = batchOf logs) ∧
    logs.length <= start.maxBatchEntriesSize ∧
    forall log, log ∈ logs -> Fits start.maxContentSizeBytes log
  takes := by
    intro aggregator limits
    rcases getBatch_spec aggregator (limits.1 ▸ positive) with ⟨logs, taken, few, fit, batch⟩
    refine ⟨logs, taken, ⟨?_, limits.1 ▸ few, limits.2 ▸ fit⟩, ?_, limits⟩
    · intro some_log
      rcases batch with full | empty
      · exact full.2
      · exact absurd empty.1 some_log
    · rcases batch with ⟨some_log, batch⟩ | ⟨none, batch, _⟩
      · rw [batch]
        exact iff_of_false (fun empty => batchOf_ne_nil logs (List.isEmpty_iff.mp empty)) some_log
      · rw [batch]
        exact iff_of_true rfl none

/-- The loop ends.  The batches then hold logs that fit, in order and from the front, and
the queue is empty or begins with a log that does not fit. -/
theorem getBatches_ends (aggregator : Aggregator) (positive : 0 < aggregator.maxBatchEntriesSize) :
    Exists fun fuel : Nat => Exists fun batches : List Bytes => Exists fun after : Aggregator =>
      Exists fun done : List String =>
        aggregator.getBatches fuel = some (batches, after) ∧
        Reads aggregator.maxBatchEntriesSize batches done ∧
        done ++ after.messages = aggregator.messages ∧
        (forall log, log ∈ done -> Fits aggregator.maxContentSizeBytes log) ∧
        (after.messages = [] ∨ Exists fun log : String => log ∈ after.messages ∧
          ¬ Fits aggregator.maxContentSizeBytes log) := by
  rcases @Draining.ends _ _ _ _ (aggregator.draining positive) Collection.batches
    Collection.currentBatch Collection.aggregator Collection.next (fun _ => rfl) (fun _ => rfl)
    aggregator aggregator.begin ⟨rfl, rfl⟩ rfl with
    ⟨fuel, final, ends, groups, last, drains⟩
  refine ⟨fuel, final.batches, final.aggregator, (groups.map Prod.fst).flatten, ?_,
    ⟨groups.map Prod.fst, ?_, rfl, ?_⟩, drains.split, ?_, ?_⟩
  · exact congrArg (Option.map (fun collection => (collection.batches, collection.aggregator))) ends
  · rw [drains.batches, List.map_map]
    exact List.map_congr_left (fun group member => (drains.held group member).1.1
      (drains.held group member).2)
  · refine List.forall_mem_map.mpr (fun group member => ?_)
    exact ⟨List.length_pos_iff.mpr (drains.held group member).2,
      (drains.held group member).1.2.1⟩
  · intro log member
    rcases List.mem_flatten.mp member with ⟨logs, listed, inside⟩
    rcases List.mem_map.mp listed with ⟨group, old, rfl⟩
    exact (drains.held group old).1.2.2 log inside
  · rcases getBatch_spec last (drains.kept.1 ▸ positive) with ⟨logs, _, _, _, batch⟩
    have left : last.messages = final.aggregator.messages := drains.left
    have empty : last.getBatch.1 = [] := by
      rw [show last.getBatch = _ from drains.asked]
      exact List.isEmpty_iff.mp drains.stopped
    rcases batch with ⟨_, batch⟩ | ⟨_, _, drained | tooLong⟩
    · exact absurd (batch.symm.trans empty) (batchOf_ne_nil logs)
    · exact Or.inl (left.symm.trans drained)
    · refine Or.inr ?_
      unfold HeadFits at tooLong
      rw [drains.kept.2, left] at tooLong
      push Not at tooLong
      rcases tooLong with ⟨log, first, long⟩
      exact ⟨log, List.mem_of_mem_head? first, long⟩

/-- Every log of the queue is delivered, in order. -/
def Delivers (aggregator : Aggregator) (batches : List Bytes) (after : Aggregator) : Prop :=
  after.messages = [] ∧ Reads aggregator.maxBatchEntriesSize batches aggregator.messages

/-- The loop of `GetBatches` ends on every queue, and delivers it exactly if every log
fits into an empty batch. -/
theorem getBatches_delivers_iff (aggregator : Aggregator)
    (positive : 0 < aggregator.maxBatchEntriesSize) :
    Exists fun fuel => Exists fun batches => Exists fun after =>
      aggregator.getBatches fuel = some (batches, after) ∧
        (aggregator.Delivers batches after <->
          forall log, log ∈ aggregator.messages -> Fits aggregator.maxContentSizeBytes log) := by
  rcases getBatches_ends aggregator positive with
    ⟨fuel, batches, after, done, ends, reads, split, fit, stopped⟩
  refine ⟨fuel, batches, after, ends, ?_, ?_⟩
  · rintro ⟨empty, _⟩ log member
    rw [empty, List.append_nil] at split
    exact fit log (split.symm ▸ member)
  · intro all
    have empty : after.messages = [] := by
      rcases stopped with drained | ⟨log, left, long⟩
      · exact drained
      · exact absurd (all log (split ▸ List.mem_append_right done left)) long
    refine ⟨empty, ?_⟩
    rw [empty, List.append_nil] at split
    exact split ▸ reads

/-- Two logs that fit are delivered in two batches of one entry. -/
theorem getBatches_delivers_iff_two :
    Exists fun fuel => Exists fun batches => Exists fun after =>
      ((new 1 4 4).addBatch ["abc", "d"]).getBatches fuel = some (batches, after) ∧
        ((new 1 4 4).addBatch ["abc", "d"]).Delivers batches after := by
  rcases getBatches_delivers_iff ((new 1 4 4).addBatch ["abc", "d"]) (by decide) with
    ⟨fuel, batches, after, ends, delivers⟩
  exact ⟨fuel, batches, after, ends, delivers.mpr (by decide)⟩

/-- A log that fills its batch but for the bracket stays in front of one that fits, and no
batch is returned. -/
theorem long_log_blocks :
    let blocked := (new 2 3 3).addBatch ["abc", "d"]
    Fits blocked.maxContentSizeBytes "d" ∧
      forall fuel batches after, blocked.getBatches fuel = some (batches, after) ->
        batches = [] ∧ after.messages = ["abc", "d"] ∧ ¬ blocked.Delivers batches after := by
  intro blocked
  refine ⟨by decide, fun fuel batches after ends => ?_⟩
  have stops : blocked.begin.continues = false := by decide
  rw [getBatches, whileLoop_of_exit stops] at ends
  have result := Option.some.inj ends
  cases result
  refine ⟨rfl, rfl, fun delivers => ?_⟩
  cases delivers.1

end Aggregator
end Logs
end Bottlecap
