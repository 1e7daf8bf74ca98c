import Bottlecap.Lifecycle.Handlers

namespace Bottlecap
namespace Lifecycle

open Foundations

/-!
# Redaction of payload tags

Two payloads are alike if they differ only in values stored under redactable keys,
at any nesting and also inside strings that hold JSON.  `get_metadata_from_value`
redacts a value only where it ends in a string that holds no JSON: numbers, booleans,
arrays and objects under a redactable key show in the tags, and so does everything
that the depth limit cuts off and serializes.

`Concealed` says that the differing values are all redacted on the way.  Then the
tags of the two payloads are the same.
-/

variable (libraries : Libraries)

mutual

/-- The payloads differ only in values under redactable keys. -/
inductive Alike : Value -> Value -> Prop where
  | same (value : Value) : Alike value value
  | text {first second : String} {left right : Value}
      (parsedLeft : libraries.jsonFromStr first = some left)
      (parsedRight : libraries.jsonFromStr second = some right) (inner : Alike left right) :
      Alike (.string first) (.string second)
  | array {first second : List Value} (items : AlikeItems first second) :
      Alike (.array first) (.array second)
  | object {first second : List (String × Value)} (members : AlikeMembers first second) :
      Alike (.object first) (.object second)

inductive AlikeItems : List Value -> List Value -> Prop where
  | nil : AlikeItems [] []
  | cons {left right : Value} {first second : List Value} (head : Alike left right)
      (tail : AlikeItems first second) : AlikeItems (left :: first) (right :: second)

inductive AlikeMembers : List (String × Value) -> List (String × Value) -> Prop where
  | nil : AlikeMembers [] []
  | redactable {key : String} (left right : Value) {first second : List (String × Value)}
      (listed : key ∈ redactableKeys) (tail : AlikeMembers first second) :
      AlikeMembers ((key, left) :: first) ((key, right) :: second)
  | plain {key : String} {left right : Value} {first second : List (String × Value)}
      (head : Alike left right) (tail : AlikeMembers first second) :
      AlikeMembers ((key, left) :: first) ((key, right) :: second)

end

/-- Under a redactable key and with so much depth left, the value ends in a string
that holds no JSON. -/
def Hidden : Nat -> Value -> Prop
  | remaining + 1, .string text =>
    match libraries.jsonFromStr text with
    | some parsed => Hidden remaining parsed
    | none => True
  | _, _ => False

/-- Where the payloads are walked together, values under a redactable key are equal
or hidden, and what is cut off is equal. -/
def Concealed : Nat -> Value -> Value -> Prop
  | 0, left, right => left = right
  | remaining + 1, .string first, .string second =>
    forall left right, libraries.jsonFromStr first = some left ->
      libraries.jsonFromStr second = some right -> Concealed remaining left right
  | remaining + 1, .array first, .array second =>
    forall pair, pair ∈ first.zip second -> Concealed remaining pair.1 pair.2
  | remaining + 1, .object first, .object second =>
    forall pair, pair ∈ first.zip second ->
      if pair.1.1 ∈ redactableKeys then
        pair.1.2 = pair.2.2 ∨
          Hidden libraries remaining pair.1.2 ∧ Hidden libraries remaining pair.2.2
      else Concealed remaining pair.1.2 pair.2.2
  | _, _, _ => True

/-! ## Keys -/

/-- The last part of a key that ends in a redactable one. -/
theorem redactValue_of_redactable (start : String) {key : String} (listed : key ∈ redactableKeys)
    (value : String) : redactValue (start ++ "." ++ key) value = "redacted" := by
  have single : forall name, name ∈ redactableKeys ->
      splitAtChar '.' name.toList = [name.toList] := by decide
  have pieces : splitAtChar '.' (start ++ "." ++ key).toList =
      splitAtChar '.' start.toList ++ [key.toList] := by
    rw [String.toList_append, String.toList_append, List.append_assoc, <- single key listed]
    exact splitAtChar_append '.' start.toList key.toList
  unfold redactValue
  rw [pieces, List.getLast?_concat, Option.getD_some, String.ofList_toList]
  simp only [listed, if_true]

theorem metadata_of_hidden (start : String) {key : String} (listed : key ∈ redactableKeys)
    {remaining : Nat} {value : Value} (hidden : Hidden libraries remaining value) :
    getMetadataFromValue libraries remaining (start ++ "." ++ key) value =
      (∅ : Tags).insert (start ++ "." ++ key) "redacted" := by
  induction remaining generalizing value with
  | zero => cases value <;> cases hidden
  | succ _ ih =>
    cases value with
    | string text =>
      unfold Hidden at hidden
      unfold getMetadataFromValue
      cases parsed : libraries.jsonFromStr text with
      | none => rw [redactValue_of_redactable start listed]
      | some =>
        rw [parsed] at hidden
        exact ih hidden
    | _ => cases hidden

/-! ## Two payloads -/

section Walk

variable {remaining : Nat}
  (agree : forall key left right, Alike libraries left right ->
    Concealed libraries remaining left right ->
    getMetadataFromValue libraries remaining key left =
      getMetadataFromValue libraries remaining key right)

include agree

theorem metadata_items (key : String) {first second : List Value}
    (alike : AlikeItems libraries first second)
    (concealed : forall pair, pair ∈ first.zip second ->
      Concealed libraries remaining pair.1 pair.2) (index : Nat) (metadata : Tags) :
    (first.zipIdx index).foldl (fun metadata item => extend metadata
        (getMetadataFromValue libraries remaining (key ++ "." ++ toString item.2) item.1)) metadata =
      (second.zipIdx index).foldl (fun metadata item => extend metadata
        (getMetadataFromValue libraries remaining (key ++ "." ++ toString item.2) item.1))
        metadata := by
  induction first generalizing second index metadata with
  | nil =>
    cases alike
    rfl
  | cons _ _ ih =>
    cases alike with
    | cons head tail =>
      rw [List.zip_cons_cons, List.forall_mem_cons] at concealed
      simp only [List.zipIdx_cons, List.foldl_cons]
      rw [agree _ _ _ head concealed.1]
      exact ih tail concealed.2 _ _

theorem metadata_members (key : String) {first second : List (String × Value)}
    (alike : AlikeMembers libraries first second)
    (concealed : forall pair, pair ∈ first.zip second ->
      if pair.1.1 ∈ redactableKeys then
        pair.1.2 = pair.2.2 ∨
          Hidden libraries remaining pair.1.2 ∧ Hidden libraries remaining pair.2.2
      else Concealed libraries remaining pair.1.2 pair.2.2) (metadata : Tags) :
    first.foldl (fun metadata member => extend metadata
        (getMetadataFromValue libraries remaining (key ++ "." ++ member.1) member.2)) metadata =
      second.foldl (fun metadata member => extend metadata
        (getMetadataFromValue libraries remaining (key ++ "." ++ member.1) member.2)) metadata := by
  induction first generalizing second metadata with
  | nil =>
    cases alike
    rfl
  | cons _ _ ih =>
    have redacted : forall {name : String} {left right : Value}, name ∈ redactableKeys ->
        left = right ∨ Hidden libraries remaining left ∧ Hidden libraries remaining right ->
        getMetadataFromValue libraries remaining (key ++ "." ++ name) left =
          getMetadataFromValue libraries remaining (key ++ "." ++ name) right := by
      intro name left right listed covered
      rcases covered with rfl | ⟨hiddenLeft, hiddenRight⟩
      · rfl
      · rw [metadata_of_hidden libraries key listed hiddenLeft,
          metadata_of_hidden libraries key listed hiddenRight]
    cases alike with
    | redactable _ _ listed tail =>
      rw [List.zip_cons_cons, List.forall_mem_cons, if_pos listed] at concealed
      rw [List.foldl_cons]
      rw [redacted listed concealed.1]
      exact ih tail concealed.2 _
    | @plain name left right _ _ head tail =>
      rw [List.zip_cons_cons, List.forall_mem_cons] at concealed
      rw [List.foldl_cons]
      have same : getMetadataFromValue libraries remaining (key ++ "." ++ name) left =
          getMetadataFromValue libraries remaining (key ++ "." ++ name) right := by
        by_cases listed : name ∈ redactableKeys
        · rw [if_pos listed] at concealed
          exact redacted listed concealed.1
        · rw [if_neg listed] at concealed
          exact agree _ _ _ head concealed.1
      rw [same]
      exact ih tail concealed.2 _

end Walk

/-- Payloads that differ only in values under redactable keys give the same tags, for
every key and depth, if these values are redacted on the way. -/
theorem metadata_eq_of_concealed (maxDepth : Nat) (key : String) {left right : Value}
    (alike : Alike libraries left right) (concealed : Concealed libraries maxDepth left right) :
    getMetadataFromValue libraries maxDepth key left =
      getMetadataFromValue libraries maxDepth key right := by
  induction maxDepth generalizing key left right with
  | zero =>
    rw [concealed]
  | succ _ ih =>
    cases alike with
    | same => rfl
    | text parsedLeft parsedRight inner =>
      have agree := ih key inner (concealed _ _ parsedLeft parsedRight)
      unfold getMetadataFromValue
      simp only [parsedLeft, parsedRight]
      exact agree
    | array items =>
      cases items with
      | nil => rfl
      | cons head tail =>
        exact metadata_items libraries (fun key left right => ih key) key
          (.cons head tail) concealed 0 ∅
    | object members =>
      exact metadata_members libraries (fun key left right => ih key) key members concealed ∅

/-- A payload with a password. -/
def loginWith (password : Value) : Value := .object [("password", password)]

theorem alike_loginWith (first second : Value) :
    Alike libraries (loginWith first) (loginWith second) :=
  .object (.redactable first second (by decide) .nil)

theorem metadata_eq_of_concealed_text :
    getMetadataFromValue (Env.plain false).libraries 10 "function.request"
        (loginWith (.string "sesame")) =
      getMetadataFromValue (Env.plain false).libraries 10 "function.request"
        (loginWith (.string "swordfish")) := by
  apply metadata_eq_of_concealed _ 10 _ (alike_loginWith _ _ _)
  intro pair member
  rw [List.mem_singleton.mp member]
  exact Or.inr ⟨trivial, trivial⟩

/-- A number under a redactable key shows in the tags. -/
theorem number_not_redacted :
    ¬ forall (libraries : Libraries) (maxDepth : Nat) (key : String) (left right : Value),
      Alike libraries left right ->
      getMetadataFromValue libraries maxDepth key left =
        getMetadataFromValue libraries maxDepth key right := by
  intro always
  have equal := always (Env.plain false).libraries 10 "function.request" _ _
    (alike_loginWith _ (.number (.posInt 1)) (.number (.posInt 2)))
  have tags := congrArg (AList.lookup "function.request.password") equal
  exact absurd tags (by decide)

end Lifecycle
end Bottlecap
