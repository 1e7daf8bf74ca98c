import Mathlib.Data.List.Infix
import Bottlecap.Logs.LogAccounts

namespace Bottlecap
namespace Logs

open Foundations Extension

/-!
# Masking the text of a record

A `mask_sequences` rule replaces what its pattern matches in the message of a log.
`get_intake_log` runs before the rules: from a record that is a JSON object it
moves the member `ddtags`, of the object or of its `message`, to the tags of the
log.  The rules do not read the tags.

`movedTags` is the text that leaves the message this way.  From the log that the
rules pass to the one handed over, neither the message nor the tags change, which
the accounts of the processor say for all orders of orphans, held and ready logs.
-/

/-- The `ddtags` of a JSON object, otherwise those of the object in its `message`. -/
def movedTags (members : List (String × Value)) : Option String :=
  match ((Value.object members).get "ddtags").bind Value.asStr with
  | some tags => some tags
  | none =>
    match (Value.object members).get "message" with
    | some (.object inner) => ((Value.object inner).get "ddtags").bind Value.asStr
    | _ => none

/-- The tags that `get_intake_log` moves out of a text. -/
def movedFrom (libraries : LogLibraries) (text : String) : Option String :=
  match libraries.jsonFromStr text with
  | some (.object members) => movedTags members
  | _ => none

/-- The configured tags, with those of a record behind a comma. -/
def joinTags (configured : String) (moved : Option String) : String :=
  match moved with
  | some tags => configured ++ "," ++ tags
  | none => configured

namespace LambdaProcessor

variable (env : ProcessorEnv)

theorem extractTags_eq (members : List (String × Value)) (tags originalMessage : String) :
    (extractTagsAndGetMessage env members tags originalMessage).1 =
      joinTags tags (movedTags members) := by
  simp only [extractTagsAndGetMessage, movedTags]
  cases ((Value.object members).get "ddtags").bind Value.asStr with
  | some => rfl
  | none =>
    cases (Value.object members).get "message" with
    | none => rfl
    | some message =>
      cases message with
      | object inner =>
        simp only
        cases ((Value.object inner).get "ddtags").bind Value.asStr with
        | some => rfl
        | none => rfl
      | _ => rfl

theorem intakeLog_tags (processor : LambdaProcessor) (message : Message) :
    (processor.intakeLog env message).tags =
      joinTags env.tags (movedFrom env.libraries message.message) := by
  simp only [intakeLog, movedFrom]
  cases env.libraries.jsonFromStr message.message with
  | none => rfl
  | some value =>
    cases value with
    | object members => exact extractTags_eq env members env.tags message.message
    | _ => rfl

/-- The tags of the log of a function record. -/
theorem producedLog_function_tags {processor : LambdaProcessor} {time : DateTime} {record : Value}
    {produced : IntakeLog}
    (made : processor.producedLog env ⟨time, .function record⟩ = some produced) :
    Exists fun text => (readFunctionRecord env.libraries record).2.1 = some text ∧
      produced.tags = joinTags env.tags (movedFrom env.libraries text) := by
  simp only [producedLog, getMessage] at made
  rcases read : readFunctionRecord env.libraries record with ⟨requestId, text, execution⟩
  rw [read] at made
  cases text with
  | none => cases made
  | some text =>
    cases made
    refine ⟨text, rfl, ?_⟩
    rw [intakeLog_tags]
    cases execution with
    | none => rfl
    | some => rfl

end LambdaProcessor

/-- Neither the message nor the tags of the log contain the pattern. -/
def Clean (pattern : String) (log : IntakeLog) : Prop :=
  contains log.message.message pattern = false ∧ contains log.tags pattern = false

/-- The tags that the record moves past the rules do not bring the pattern into the tags of
its log. -/
def MovesNone (env : ProcessorEnv) (pattern : String) (record : Value) : Prop :=
  forall text, (readFunctionRecord env.libraries record).2.1 = some text ->
    forall moved, movedFrom env.libraries text = some moved ->
      contains (env.tags ++ "," ++ moved) pattern = false

/-- What the rules leave of a log, when the only one masks. -/
theorem keep_of_mask {env : ProcessorEnv} {regex : Regex} {placeholder : String}
    (rules : env.rules = some [⟨.maskSequences, regex, placeholder⟩])
    {log kept : IntakeLog} (passes : LambdaProcessor.keep env log = some kept) :
    kept.message.message = regex.replaceAll log.message.message placeholder ∧
      kept.tags = log.tags := by
  rw [LambdaProcessor.keep] at passes
  split at passes
  · rw [LambdaProcessor.passRules, rules] at passes
    cases passes
    exact ⟨rfl, rfl⟩
  · cases passes

/-- A log that differs in its request id and durable execution attributes only is as clean. -/
theorem clean_of_anonymous {pattern : String} {first second : IntakeLog}
    (same : first.anonymous = second.anonymous) : Clean pattern first <-> Clean pattern second := by
  have message := congrArg (fun log : IntakeLog => log.message.message) same
  have tags := congrArg (fun log : IntakeLog => log.tags) same
  change first.message.message = second.message.message at message
  change first.tags = second.tags at tags
  rw [Clean, Clean, message, tags]

/-- The log of a function record after the mask. -/
theorem kept_clean_iff {env : ProcessorEnv} {regex : Regex} {pattern placeholder : String}
    (rules : env.rules = some [⟨.maskSequences, regex, placeholder⟩])
    (leavesNone : forall text, contains (regex.replaceAll text placeholder) pattern = false)
    (configured : contains env.tags pattern = false) {processor : LambdaProcessor}
    {time : DateTime} {record : Value} {produced kept : IntakeLog}
    (made : processor.producedLog env ⟨time, .function record⟩ = some produced)
    (passes : LambdaProcessor.keep env produced = some kept) :
    Clean pattern kept <-> MovesNone env pattern record := by
  rcases LambdaProcessor.producedLog_function_tags env made with ⟨text, read, tags⟩
  rcases keep_of_mask rules passes with ⟨masked, same⟩
  rw [Clean, masked, same, tags]
  constructor
  · rintro ⟨_, free⟩ other readOther moved found
    rw [read] at readOther
    cases readOther
    rw [found] at free
    exact free
  · intro movesNone
    refine ⟨leavesNone _, ?_⟩
    cases found : movedFrom env.libraries text with
    | none => exact configured
    | some moved => exact movesNone text read moved found

namespace LogsProcessor

variable {env : ProcessorEnv} {text : IntakeLog -> String}
  (serializes : forall log, env.serialize log = some (text log))

include serializes

/-- Every log with the aggregator is one that the rules passed, up to its request id and
durable execution attributes. -/
theorem handed_passed {fuel : Nat} {calls : List LogsCall} {after : LogsProcessor}
    (returns : calls.foldlM (LogsCall.apply env fuel) new = some after) :
    Exists fun handed : List IntakeLog => after.aggregator.flatten = handed.map text ∧
      forall log, log ∈ handed ->
        Exists fun produced : IntakeLog => produced ∈ LogsCall.producedBy env fuel new calls ∧
          Exists fun kept : IntakeLog => LambdaProcessor.keep env produced = some kept ∧
            log.anonymous = kept.anonymous := by
  rcases accounted_foldlM serializes calls accounted_new returns with
    ⟨ready, handed, _, texts, balance⟩
  refine ⟨handed, texts, ?_⟩
  intro log member
  have counted : log.anonymous ∈ sent env (LogsCall.producedBy env fuel new calls) := by
    rw [zero_add] at balance
    rw [balance]
    exact Multiset.mem_add.mpr (Or.inr (Multiset.mem_coe.mpr (List.mem_map_of_mem member)))
  rcases List.mem_map.mp (Multiset.mem_coe.mp counted) with ⟨kept, passed, same⟩
  rcases List.mem_filterMap.mp passed with ⟨produced, listed, keeps⟩
  exact ⟨produced, listed, kept, keeps, same.symm⟩

/-- With one rule that masks a pattern: every log handed to the aggregator is the masked log
of a record, and that of a function record is free of the pattern exactly if the record does
not move it to the tags. -/
theorem masked_log_clean_iff {regex : Regex} {pattern placeholder : String}
    (rules : env.rules = some [⟨.maskSequences, regex, placeholder⟩])
    (leavesNone : forall text, contains (regex.replaceAll text placeholder) pattern = false)
    (configured : contains env.tags pattern = false) :
    (forall (fuel : Nat) (calls : List LogsCall) (after : LogsProcessor),
      calls.foldlM (LogsCall.apply env fuel) new = some after ->
      Exists fun handed : List IntakeLog => after.aggregator.flatten = handed.map text ∧
        forall log, log ∈ handed ->
          Exists fun produced : IntakeLog => produced ∈ LogsCall.producedBy env fuel new calls ∧
            Exists fun kept : IntakeLog => LambdaProcessor.keep env produced = some kept ∧
              log.anonymous = kept.anonymous) ∧
      forall (processor : LambdaProcessor) (time : DateTime) (record : Value)
        (produced kept log : IntakeLog),
        processor.producedLog env ⟨time, .function record⟩ = some produced ->
        LambdaProcessor.keep env produced = some kept -> log.anonymous = kept.anonymous ->
        (Clean pattern log <-> MovesNone env pattern record) := by
  refine ⟨fun fuel calls after returns => handed_passed serializes returns, ?_⟩
  intro processor time record produced kept log made passes same
  rw [clean_of_anonymous same]
  exact kept_clean_iff rules leavesNone configured made passes

end LogsProcessor

/-! ## A mask for one character -/

/-- The expression that matches one character. -/
def Regex.char (matched : Char) : Regex where
  isMatch := fun text => decide (matched ∈ text.toList)
  replaceAll := fun text placeholder => String.ofList
    (text.toList.flatMap (fun char => if char = matched then placeholder.toList else [char]))

theorem contains_char_iff (text : String) (char : Char) :
    contains text (String.ofList [char]) = true <-> char ∈ text.toList := by
  rw [contains, List.any_eq_true, String.toList_ofList]
  constructor
  · rintro ⟨rest, tail, start⟩
    rcases List.isPrefixOf_iff_prefix.mp start with ⟨after, rfl⟩
    exact ((List.mem_tails _ _).mp tail).subset List.mem_cons_self
  · intro member
    rcases List.append_of_mem member with ⟨before, after, split⟩
    refine ⟨char :: after, (List.mem_tails _ _).mpr ⟨before, split.symm⟩, ?_⟩
    exact List.isPrefixOf_iff_prefix.mpr ⟨after, rfl⟩

theorem Regex.char_leavesNone {matched : Char} {placeholder : String}
    (absent : matched ∉ placeholder.toList) (text : String) :
    contains ((Regex.char matched).replaceAll text placeholder) (String.ofList [matched]) =
      false := by
  rw [Bool.eq_false_iff, ne_eq, contains_char_iff]
  change matched ∉ (String.ofList _).toList
  rw [String.toList_ofList, List.mem_flatMap]
  rintro ⟨char, _, member⟩
  by_cases same : char = matched
  · rw [if_pos same] at member
    exact absent member
  · rw [if_neg same, List.mem_singleton] at member
    exact same member.symm

/-- A record that is the text of a JSON object with tags. -/
def taggedLine : String := "\x7b\"ddtags\":\"k:x\"\x7d"

/-- A processor that masks the letter x and reads the JSON of that record. -/
def ProcessorEnv.masking : ProcessorEnv :=
  { ProcessorEnv.plain true with
    tags := "env:prod"
    rules := some [⟨.maskSequences, Regex.char 'x', "*"⟩]
    libraries := { (ProcessorEnv.plain true).libraries with
      jsonToString := fun _ => some "\x7b\x7d"
      jsonFromStr := fun text =>
        if text = taggedLine then some (.object [("ddtags", .string "k:x")])
        else none } }

/-- The letter is masked in a line without tags. -/
theorem masked_log_clean_plain :
    Exists fun produced : IntakeLog => Exists fun kept : IntakeLog =>
      LambdaProcessor.new.producedLog ProcessorEnv.masking
          ⟨0, .function (.string "key x")⟩ = some produced ∧
        LambdaProcessor.keep ProcessorEnv.masking produced = some kept ∧
        kept.message.message = "key *" ∧ Clean "x" kept := by
  refine ⟨_, _, rfl, rfl, rfl, ?_⟩
  have movesNone : MovesNone ProcessorEnv.masking "x" (.string "key x") := by
    intro text read moved found
    cases read
    cases found
  have serializes : forall log, ProcessorEnv.masking.serialize log = some log.plainText :=
    fun _ => rfl
  exact ((LogsProcessor.masked_log_clean_iff serializes rfl
    (Regex.char_leavesNone (by decide)) (by decide)).2 LambdaProcessor.new 0
    (.string "key x") _ _ _ rfl rfl rfl).mpr movesNone

/-- The tags of a record keep the letter. -/
theorem tags_escape_mask :
    ¬ forall (env : ProcessorEnv) (regex : Regex) (pattern placeholder : String),
      env.rules = some [⟨.maskSequences, regex, placeholder⟩] ->
      (forall text, contains (regex.replaceAll text placeholder) pattern = false) ->
      contains env.tags pattern = false ->
      forall (processor : LambdaProcessor) (time : DateTime) (record : Value)
        (produced kept : IntakeLog),
        processor.producedLog env ⟨time, .function record⟩ = some produced ->
        LambdaProcessor.keep env produced = some kept -> Clean pattern kept := by
  intro always
  have clean := always ProcessorEnv.masking (Regex.char 'x') "x" "*" rfl
    (Regex.char_leavesNone (by decide)) (by decide) LambdaProcessor.new 0
    (.string taggedLine) _ _ rfl rfl
  exact absurd clean.2 (by decide +kernel)

end Logs
end Bottlecap
