import Bottlecap.Foundations.Slices

namespace Bottlecap
namespace Foundations
namespace JsonText

/-!
# JSON texts

A recogniser of JSON on bytes: a scanner with a stack of the open containers.  It
stops at the first byte that no JSON text has there, so that the start of a JSON text
is never stopped; and what it does on a value does not depend on the containers around
that value, so that an array of JSON texts is JSON and can be taken apart again.
-/

inductive Container where
  | array
  | object
  deriving DecidableEq

/-- What has been read last, and so what may come next. -/
inductive Scan where
  /-- A value has to start. -/
  | value
  /-- An array was opened. -/
  | element
  /-- An object was opened. -/
  | member
  /-- A key has to start. -/
  | key
  | text (key : Bool)
  | escape (key : Bool)
  /-- More hexadecimal digits are due after the next one. -/
  | hex (key : Bool) (more : Nat)
  | colon
  /-- A value has ended. -/
  | after
  | literal (rest : Bytes)
  | sign
  | zero
  | integer
  | point
  | fraction
  | exponent
  | exponentSign
  | exponentDigits
  deriving DecidableEq

structure State where
  scan : Scan
  containers : List Container
  deriving DecidableEq

def isBlank (byte : UInt8) : Bool := byte == 32 || byte == 9 || byte == 10 || byte == 13
def isDigit (byte : UInt8) : Bool := byteOf '0' <= byte && byte <= byteOf '9'
def isHex (byte : UInt8) : Bool :=
  isDigit byte || (byteOf 'A' <= byte && byte <= byteOf 'F') ||
    (byteOf 'a' <= byte && byte <= byteOf 'f')
def isExponent (byte : UInt8) : Bool := byte == byteOf 'e' || byte == byteOf 'E'
/-- The bytes that may follow a backslash, `u` apart. -/
def isEscape (byte : UInt8) : Bool := (ascii "\"\\/bfnrt").contains byte

/-- A value may end here. -/
def Scan.ends : Scan -> Bool
  | after | zero | integer | fraction | exponentDigits => true
  | _ => false

/-- What a byte does to the scanner and the open containers. -/
inductive Move where
  | goto (scan : Scan)
  | enter (container : Container) (scan : Scan)
  | leave (container : Container)
  | separate
  deriving DecidableEq

/-- The first byte of a value. -/
def startMove (byte : UInt8) : Option Move :=
  if byte = quote then some (.goto (.text false))
  else if byte = openBrace then some (.enter .object .member)
  else if byte = openBracket then some (.enter .array .element)
  else if byte = byteOf '-' then some (.goto .sign)
  else if byte = byteOf '0' then some (.goto .zero)
  else if isDigit byte then some (.goto .integer)
  else if byte = byteOf 't' then some (.goto (.literal (ascii "rue")))
  else if byte = byteOf 'f' then some (.goto (.literal (ascii "alse")))
  else if byte = byteOf 'n' then some (.goto (.literal (ascii "ull")))
  else none

/-- A byte after the end of a value. -/
def endMove (byte : UInt8) : Option Move :=
  if isBlank byte then some (.goto .after)
  else if byte = comma then some .separate
  else if byte = closeBracket then some (.leave .array)
  else if byte = closeBrace then some (.leave .object)
  else none

def move (scan : Scan) (byte : UInt8) : Option Move :=
  match scan with
  | .value => if isBlank byte then some (.goto .value) else startMove byte
  | .element =>
    if isBlank byte then some (.goto .element)
    else if byte = closeBracket then some (.leave .array)
    else startMove byte
  | .member =>
    if isBlank byte then some (.goto .member)
    else if byte = closeBrace then some (.leave .object)
    else if byte = quote then some (.goto (.text true))
    else none
  | .key =>
    if isBlank byte then some (.goto .key)
    else if byte = quote then some (.goto (.text true))
    else none
  | .text key =>
    if byte = quote then some (.goto (if key then .colon else .after))
    else if byte = backslash then some (.goto (.escape key))
    else if byte < 32 then none
    else some (.goto (.text key))
  | .escape key =>
    if isEscape byte then some (.goto (.text key))
    else if byte = byteOf 'u' then some (.goto (.hex key 3))
    else none
  | .hex key more =>
    if isHex byte then
      match more with
      | 0 => some (.goto (.text key))
      | more + 1 => some (.goto (.hex key more))
    else none
  | .colon =>
    if isBlank byte then some (.goto .colon)
    else if byte = byteOf ':' then some (.goto .value)
    else none
  | .after => endMove byte
  | .literal [] => none
  | .literal (next :: rest) =>
    if byte = next then
      some (.goto (if rest.isEmpty then .after else .literal rest))
    else none
  | .sign =>
    if byte = byteOf '0' then some (.goto .zero)
    else if isDigit byte then some (.goto .integer)
    else none
  | .zero =>
    if byte = byteOf '.' then some (.goto .point)
    else if isExponent byte then some (.goto .exponent)
    else endMove byte
  | .integer =>
    if isDigit byte then some (.goto .integer)
    else if byte = byteOf '.' then some (.goto .point)
    else if isExponent byte then some (.goto .exponent)
    else endMove byte
  | .point => if isDigit byte then some (.goto .fraction) else none
  | .fraction =>
    if isDigit byte then some (.goto .fraction)
    else if isExponent byte then some (.goto .exponent)
    else endMove byte
  | .exponent =>
    if byte = byteOf '+' ∨ byte = byteOf '-' then some (.goto .exponentSign)
    else if isDigit byte then some (.goto .exponentDigits)
    else none
  | .exponentSign => if isDigit byte then some (.goto .exponentDigits) else none
  | .exponentDigits =>
    if isDigit byte then some (.goto .exponentDigits) else endMove byte

def Move.apply : Move -> List Container -> Option State
  | goto scan, containers => some ⟨scan, containers⟩
  | enter container scan, containers => some ⟨scan, container :: containers⟩
  | leave _, [] => none
  | leave container, first :: rest =>
    if first = container then some ⟨.after, rest⟩ else none
  | separate, [] => none
  | separate, .array :: rest => some ⟨.value, .array :: rest⟩
  | separate, .object :: rest => some ⟨.key, .object :: rest⟩

def step (state : State) (byte : UInt8) : Option State :=
  (move state.scan byte).bind (fun move => move.apply state.containers)

def run (state : State) (bytes : Bytes) : Option State := bytes.foldlM step state

def initial : State := ⟨.value, []⟩

def State.done (state : State) : Bool := state.scan.ends && state.containers.isEmpty

/-- The bytes are a JSON text. -/
def Json (bytes : Bytes) : Prop :=
  Exists fun state => run initial bytes = some state ∧ state.done = true

variable {state final : State} {texts : List Bytes}

theorem run_cons (state : State) (byte : UInt8) (bytes : Bytes) :
    run state (byte :: bytes) = (step state byte).bind (fun next => run next bytes) :=
  List.foldlM_cons

theorem run_append (state : State) (first second : Bytes) :
    run state (first ++ second) = (run state first).bind (fun next => run next second) :=
  List.foldlM_append

/-! ## Values inside containers -/

/-- The state with more containers around it. -/
def State.within (state : State) (outer : List Container) : State :=
  ⟨state.scan, state.containers ++ outer⟩

theorem apply_within {move : Move} {containers : List Container} {next : State}
    (applied : move.apply containers = some next) (outer : List Container) :
    move.apply (containers ++ outer) = some (next.within outer) := by
  cases move with
  | goto | enter =>
    cases applied
    rfl
  | leave =>
    cases containers with
    | nil => cases applied
    | cons =>
      rw [Move.apply] at applied
      split at applied
      next same =>
        cases applied
        exact if_pos same
      next => cases applied
  | separate =>
    cases containers with
    | nil => cases applied
    | cons first =>
      cases first with
      | array | object =>
        cases applied
        rfl

theorem step_within {next : State} {byte : UInt8} (steps : step state byte = some next)
    (outer : List Container) : step (state.within outer) byte = some (next.within outer) := by
  rcases Option.bind_eq_some_iff.mp steps with ⟨move, moves, applied⟩
  exact Option.bind_eq_some_iff.mpr ⟨move, moves, apply_within applied outer⟩

theorem run_within {bytes : Bytes} (runs : run state bytes = some final) (outer : List Container) :
    run (state.within outer) bytes = some (final.within outer) := by
  induction bytes generalizing state with
  | nil =>
    cases runs
    rfl
  | cons _ _ ih =>
    rcases Option.bind_eq_some_iff.mp runs with ⟨next, steps, later⟩
    exact Option.bind_eq_some_iff.mpr ⟨next.within outer, step_within steps outer, ih later⟩

/-! ## Arrays -/

/-- At the end of a value, the byte that separates elements or closes an array does
so. -/
theorem move_ends {scan : Scan} (ends : scan.ends = true) :
    move scan comma = some .separate ∧ move scan closeBracket = some (.leave .array) := by
  cases scan with
  | after | zero | integer | fraction | exponentDigits => decide
  | _ => cases ends

/-- The scanner of an element, right after the bracket as after a comma. -/
theorem run_element {bytes : Bytes} (runs : run initial bytes = some final)
    (ends : final.scan.ends = true) (outer : List Container) :
    run ⟨.element, outer⟩ bytes = some (final.within outer) := by
  induction bytes with
  | nil =>
    cases runs
    cases ends
  | cons byte _ ih =>
    rw [run_cons] at runs ⊢
    rcases Option.bind_eq_some_iff.mp runs with ⟨next, steps, later⟩
    rcases Option.bind_eq_some_iff.mp steps with ⟨first, moves, applied⟩
    by_cases blank : isBlank byte = true
    · have same : first = .goto .value := by
        simp only [move, if_pos blank] at moves
        exact (Option.some.inj moves).symm
      rw [same] at applied
      cases applied
      have stays : step ⟨.element, outer⟩ byte = some ⟨.element, outer⟩ := by
        simp only [step, move, if_pos blank, Option.bind_some, Move.apply]
      rw [stays]
      exact ih later
    · simp only [move, initial, if_neg blank] at moves
      -- No value starts with a closing bracket.
      have visible : byte ≠ closeBracket := by
        intro same
        have none : startMove closeBracket = none := by decide
        rw [same] at moves
        cases moves
      have steps : step ⟨.element, outer⟩ byte = some (next.within outer) := by
        have applied := apply_within applied outer
        simp only [step, move, if_neg blank, if_neg visible, moves]
        exact applied
      rw [steps]
      exact run_within later outer

/-- The elements of the rest of an array, whose first byte is read in the given state
and belongs to an element that has begun with `current`. -/
def elementsFrom : State -> Bytes -> Bytes -> Option (List Bytes)
  | _, _, [] => none
  | state, current, byte :: rest =>
    if state.done ∧ byte = comma then
      (elementsFrom initial [] rest).map (fun texts => current :: texts)
    else if state.done ∧ byte = closeBracket then if rest.isEmpty then some [current] else none
    else (step state byte).bind (fun next => elementsFrom next (current ++ [byte]) rest)

/-- The texts of the elements of an array. -/
def elements (bytes : Bytes) : Option (List Bytes) :=
  if bytes = ascii "[]" then some []
  else (stripStart [openBracket] bytes).bind (elementsFrom initial [])

theorem step_done (done : state.done = true) :
    step state comma = none ∧ step state closeBracket = none := by
  rcases Bool.and_eq_true_iff.mp done with ⟨ends, empty⟩
  have moves := move_ends ends
  rw [step, step, moves.1, moves.2, List.isEmpty_iff.mp empty]
  exact ⟨rfl, rfl⟩

/-- The bytes of an element are taken as a whole. -/
theorem elementsFrom_append {bytes : Bytes} (runs : run state bytes = some final)
    (current rest : Bytes) :
    elementsFrom state current (bytes ++ rest) = elementsFrom final (current ++ bytes) rest := by
  induction bytes generalizing state current with
  | nil =>
    cases runs
    rw [List.append_nil, List.nil_append]
  | cons byte _ ih =>
    rcases Option.bind_eq_some_iff.mp runs with ⟨next, steps, later⟩
    have separates : ¬ (state.done = true ∧ byte = comma) := by
      rintro ⟨done, same⟩
      rw [same, (step_done done).1] at steps
      cases steps
    have closes : ¬ (state.done = true ∧ byte = closeBracket) := by
      rintro ⟨done, same⟩
      rw [same, (step_done done).2] at steps
      cases steps
    rw [List.cons_append, elementsFrom, if_neg separates, if_neg closes, steps, Option.bind_some,
      ih later, List.append_assoc]
    rfl

/-- The texts of the elements after the first, with their commas, and the end. -/
def tailOf (texts : List Bytes) : Bytes := texts.flatMap (fun text => comma :: text) ++ [closeBracket]

theorem elementsFrom_array {text : Bytes} (json : Json text)
    (others : forall other, other ∈ texts -> Json other) :
    elementsFrom initial [] (text ++ tailOf texts) = some (text :: texts) := by
  induction texts generalizing text with
  | nil =>
    rcases json with ⟨final, runs, done⟩
    rw [elementsFrom_append runs, tailOf, List.flatMap_nil, List.nil_append,
      List.nil_append, elementsFrom, if_neg (fun both => absurd both.2 (by decide)), if_pos ⟨done, rfl⟩]
    rfl
  | cons next _ ih =>
    rcases json with ⟨final, runs, done⟩
    have rest := ih (others next List.mem_cons_self)
      (fun other member => others other (List.mem_cons_of_mem next member))
    rw [elementsFrom_append runs, tailOf, List.flatMap_cons, List.append_assoc, List.cons_append,
      elementsFrom, if_pos ⟨done, rfl⟩]
    rw [tailOf] at rest
    rw [rest]
    rfl

theorem run_array {text : Bytes} (runs : run state text = some final)
    (done : final.scan.ends = true) (inside : final.containers = [.array])
    (others : forall other, other ∈ texts -> Json other) :
    run state (text ++ tailOf texts) = some ⟨.after, []⟩ := by
  induction texts generalizing text state final with
  | nil =>
    rw [run_append, runs, Option.bind_some, tailOf, List.flatMap_nil, List.nil_append, run_cons,
      step, (move_ends done).2, inside]
    rfl
  | cons next _ ih =>
    rw [List.forall_mem_cons] at others
    rcases others.1 with ⟨end', runs', done'⟩
    rcases Bool.and_eq_true_iff.mp done' with ⟨ends, empty⟩
    have within := run_within runs' [.array]
    have rest := ih within ends (by
      rw [State.within, List.isEmpty_iff.mp empty]
      rfl) others.2
    rw [run_append, runs, Option.bind_some, tailOf, List.flatMap_cons, List.append_assoc,
      List.cons_append, run_cons, step, (move_ends done).1, inside]
    exact rest

/-- The array of some texts. -/
def arrayOf : List Bytes -> Bytes
  | [] => [openBracket, closeBracket]
  | text :: texts => openBracket :: (text ++ tailOf texts)

theorem json_arrayOf (json : forall text, text ∈ texts -> Json text) :
    Json (arrayOf texts) := by
  cases texts with
  | nil => exact ⟨⟨.after, []⟩, rfl, rfl⟩
  | cons text =>
    rw [List.forall_mem_cons] at json
    rcases json.1 with ⟨final, runs, done⟩
    rcases Bool.and_eq_true_iff.mp done with ⟨ends, empty⟩
    have first := run_element runs ends [.array]
    have whole := run_array first ends (by
      rw [State.within, List.isEmpty_iff.mp empty]
      rfl) json.2
    exact ⟨⟨.after, []⟩, whole, rfl⟩

theorem elements_arrayOf (json : forall text, text ∈ texts -> Json text) :
    elements (arrayOf texts) = some texts := by
  cases texts with
  | nil => rfl
  | cons text texts =>
    have opened := stripStart_append [openBracket] (text ++ tailOf texts)
    rw [List.cons_append, List.nil_append] at opened
    have notEmpty : arrayOf (text :: texts) ≠ ascii "[]" := by
      rcases json text List.mem_cons_self with ⟨final, runs, done⟩
      intro same
      cases text with
      | nil =>
        cases runs
        cases done
      | cons byte =>
        rcases Option.bind_eq_some_iff.mp runs with ⟨next, steps, _⟩
        have first : byte = closeBracket := (List.cons.inj (List.cons.inj same).2).1
        have none : step initial closeBracket = none := by decide
        rw [first] at steps
        cases steps
    rw [elements, if_neg notEmpty, arrayOf, opened]
    exact elementsFrom_array (json text List.mem_cons_self)
      (fun other member => json other (List.mem_cons_of_mem text member))

end JsonText
end Foundations
end Bottlecap
