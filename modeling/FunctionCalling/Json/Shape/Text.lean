/-
  Values read from text in the form that a shape describes.

  The text is read once, from left to right, and what the shape asks for is checked as it is
  met.  So of several faults the first in the text is reported, with its position:

  1. an unwanted number, string or word: after it;
  2. an unwanted list or object: before its opening bracket;
  3. an unknown or repeated field: after its name and the blanks that follow;
  4. a missing field or a list that is too short: after the closing bracket.
-/
import FunctionCalling.Json.Shape
import FunctionCalling.Json.Reader

namespace FunctionCalling.Json

namespace Reader

/-- Reads what stands in the wrong place, as far as it is needed to say what it is. -/
def unwanted {α : Type} (expected : String) : Reader α := do
  match ← blank with
  | none => failHere .endInValue
  | some '[' => place (unfit (.wrongType .sequence expected))
  | some '\x7b' => place (unfit (.wrongType .map expected))
  | some c =>
    let v ← scalar c
    place (unfit (.wrongType v.found expected))

/-- A string. -/
def wantedString (expected : String) : Reader String := do
  if (← blank) = some '"' then string else unwanted expected

/-- A string, handed to a function that may refuse it. -/
def checkedString {α : Type} (expected : String) (f : String → Except Misfit α) : Reader α := do
  let s ← wantedString expected
  match f s with
  | .ok a => pure a
  | .error m => place (unfit m)

/-- A whole number within bounds. -/
def wantedNumber {α : Type} (expected : String) (f : Json → Except Misfit α) : Reader α := do
  match ← blank with
  | none => failHere .endInValue
  | some c =>
    if c = '-' ∨ c.isDigit then
      let n ← number
      match f (.number n) with
      | .ok a => pure a
      | .error m => place (unfit m)
    else unwanted expected

/-- `true` or `false`. -/
def wantedFlag : Reader Bool := do
  match ← blank with
  | some 't' => skip; word ['r', 'u', 'e']; pure true
  | some 'f' => skip; word ['a', 'l', 's', 'e']; pure false
  | _ => unwanted "a boolean"

/-- `null`. -/
def wantedNull : Reader Unit := do
  match ← blank with
  | some 'n' => skip; word ['u', 'l', 'l']
  | _ => unwanted "unit"

/-- One of the values listed, from its name or from an object with the name as its only key. -/
def wantedChoice {α : Type} (depth : Nat) (values : List α) (name : α → String) : Reader α := do
  let variant := checkedString "variant identifier" (chosen values name)
  match ← blank with
  | none => failHere .endInValue
  | some '"' => variant
  | some '\x7b' =>
    if depth = 0 then failNext .nestedTooDeep
    skip
    let a ← variant
    colon
    wantedNull
    match ← blank with
    | none => failHere .endInObject
    | some '\x7d' => skip; pure a
    | some _ => failNext .expectedValue
  | some _ => failNext .expectedValue

/-- A list whose items are read with one level less to open. -/
def wantedList {α : Type} (depth : Nat) (item : Reader α) : Reader (List α) := do
  if (← blank) = some '[' then
    if depth = 0 then failNext .nestedTooDeep
    listOf item
  else unwanted "a sequence"

/-- A result that may be a misfit. -/
def settle {α : Type} : Except Misfit α → Reader α
  | .ok a => pure a
  | .error m => unfit m

end Reader

open Reader

mutual

/-- Reads a value of which the text holds the form, with at most `depth` lists and objects open
    at once. -/
def Shape.read : {α : Type} → Shape α → Nat → Reader α
  | _, .text, _ => wantedString "a string"
  | _, .flag, _ => wantedFlag
  | _, .word name, _ => wantedNumber name (Shape.word name).decode
  | _, .byte, _ => wantedNumber "u8" Shape.byte.decode
  | _, .integer, _ => wantedNumber "i64" Shape.integer.decode
  | _, .any, depth => value depth
  | _, .optional shape, depth => do
    if (← blank) = some 'n' then
      skip
      word ['u', 'l', 'l']
      pure none
    else pure (some (← shape.read depth))
  | _, .list shape, depth => wantedList depth (shape.read (depth - 1))
  | _, .choice values name, depth => wantedChoice depth values name
  | _, .record name strictness fields make _, depth => do
    match ← blank with
    | some '[' =>
      if depth = 0 then failNext .nestedTooDeep
      skip
      let b ← enclosed ']' (fields.readItems name fields.count 0 (depth - 1)) listEnd
      pure (make b)
    | some '\x7b' =>
      if depth = 0 then failNext .nestedTooDeep
      skip
      let inside := do
        let slots ← members (fields.readMember strictness fields.names (depth - 1)) fields.empty
        settle (fields.finish slots)
      let b ← enclosed '\x7d' inside objectEnd
      pure (make b)
    | _ => unwanted ("struct " ++ name)

/-- Reads the member with a key into the slot of its field; `known` are the names of all the
    fields. -/
def Fields.readMember : {β : Type} → (fields : Fields β) → Strictness → List String → Nat →
    String → fields.Slots → Reader fields.Slots
  | _, .done => fun strictness known _ key () => do
    if strictness = .denyUnknown then unfit (.unknownField key known)
    colon
    ignored
  | _, .field name shape _ _ more => fun strictness known depth key (slot, slots) => do
    if key = name then
      if slot.isSome then unfit (.duplicateField name)
      colon
      pure (some (← shape.read depth), slots)
    else pure (slot, ← more.readMember strictness known depth key slots)

/-- Reads the fields in declared order from the inside of a list; `total` is the number of all
    the fields and `index` that of the fields already read. -/
def Fields.readItems : {β : Type} → Fields β → String → Nat → Nat → Nat → Reader β
  | _, .done, _, _, _, _ => pure ()
  | _, .field _ shape absent _ more, record, total, index, depth => do
    if ← moreItems (index = 0) then
      let a ← shape.read depth
      pure (a, ← more.readItems record total (index + 1) depth)
    else
      match absent with
      | some a => pure (a, ← more.readItems record total (index + 1) depth)
      | none => unfit (.wrongLength index (expectedFields record total))

end

/-- Reads a value from a whole text. -/
def Shape.parse {α : Type} (shape : Shape α) (text : String) : Except Error α :=
  run (shape.read depthLimit) text

end FunctionCalling.Json
