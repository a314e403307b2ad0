/-
  How the values of a type are written as JSON.

  A `Shape α` describes one JSON form for the values of `α`, and everything that has to do with
  that form is a function of the description:

  1. `Shape.encode` writes a value;
  2. `Shape.decode` reads one back from a JSON value;
  3. `Shape.read` (module `Json.Shape.Text`) reads one from a text, with positions.

  A record is written as an object with its fields in the order in which they are declared.  It
  is read from such an object with the fields in any order, or from a list of the fields in
  declared order.  A field may have a value that stands for it when it is absent, and values for
  which it is left out.  A choice among names is written as the name, and read from the name or
  from an object with the name as its only key and `null` under it.
-/
import FunctionCalling.Json.Error

namespace FunctionCalling.Json

/-! ## Descriptions -/

/-- What happens to a field that a record does not have. -/
inductive Strictness where
  | ignoreUnknown
  | denyUnknown
deriving DecidableEq, Repr

mutual

/-- A JSON form for the values of a type. -/
inductive Shape : Type → Type 1 where
  /-- A string. -/
  | text : Shape String
  /-- `true` or `false`. -/
  | flag : Shape Bool
  /-- A whole number from 0 to 2^64 - 1, under the name that diagnostics give the type. -/
  | word (name : String) : Shape UInt64
  /-- A whole number from 0 to 255. -/
  | byte : Shape UInt8
  /-- A whole number from -2^63 to 2^63 - 1. -/
  | integer : Shape Int64
  /-- Any JSON value. -/
  | any : Shape Json
  /-- `null` for nothing. -/
  | optional {α : Type} (shape : Shape α) : Shape (Option α)
  /-- A list. -/
  | list {α : Type} (shape : Shape α) : Shape (List α)
  /-- One of the values listed, written as its name. -/
  | choice {α : Type} (values : List α) (name : α → String) : Shape α
  /-- A record under the name that diagnostics give it: its fields, and how they make up a value
      and come out of it again. -/
  | record {α β : Type} (name : String) (strictness : Strictness) (fields : Fields β)
      (make : β → α) (parts : α → β) : Shape α

/-- The fields of a record; the type is that of the tuple of their values. -/
inductive Fields : Type → Type 1 where
  /-- No more fields. -/
  | done : Fields Unit
  /-- A field: its name, its shape, what it is when absent, and when it is left out. -/
  | field {α β : Type} (name : String) (shape : Shape α) (absent : Option α)
      (omitted : α → Bool) (more : Fields β) : Fields (α × β)

end

namespace Fields

/-- A field that must be there. -/
def required {α β : Type} (name : String) (shape : Shape α) (more : Fields β) : Fields (α × β) :=
  .field name shape none (fun _ => false) more

/-- A field with a value that stands for it when it is absent; it is always written. -/
def withDefault {α β : Type} (name : String) (shape : Shape α) (absent : α) (more : Fields β) :
    Fields (α × β) :=
  .field name shape (some absent) (fun _ => false) more

/-- A field that is written only when it has a value. -/
def whenSome {α β : Type} (name : String) (shape : Shape α) (more : Fields β) :
    Fields (Option α × β) :=
  .field name (.optional shape) (some none) Option.isNone more

/-- A list that is written only when it has items. -/
def whenAny {α β : Type} (name : String) (shape : Shape α) (more : Fields β) :
    Fields (List α × β) :=
  .field name (.list shape) (some []) List.isEmpty more

/-- The names of the fields, as declared. -/
def names : {β : Type} → Fields β → List String
  | _, .done => []
  | _, .field name _ _ _ more => name :: more.names

/-- The number of fields. -/
def count {β : Type} (fields : Fields β) : Nat :=
  fields.names.length

/-- The tuple of values under way: each may still be missing. -/
abbrev Slots : {β : Type} → Fields β → Type
  | _, .done => Unit
  | _, .field (α := α) _ _ _ _ more => Option α × more.Slots

/-- Nothing has been read yet. -/
def empty : {β : Type} → (fields : Fields β) → fields.Slots
  | _, .done => ()
  | _, .field _ _ _ _ more => (none, more.empty)

/-- The tuple, with what stands for absent fields filled in; a field that must be there may be
    missing. -/
def finish : {β : Type} → (fields : Fields β) → fields.Slots → Except Misfit β
  | _, .done => fun () => .ok ()
  | _, .field name _ absent _ more => fun (slot, slots) =>
    match slot <|> absent with
    | none => .error (.missingField name)
    | some a => (more.finish slots).map (a, ·)

end Fields

/-- What diagnostics expect in place of a record whose list of fields is too short. -/
def expectedFields (name : String) (count : Nat) : String :=
  "struct " ++ name ++ " with " ++ toString count ++
    (if count = 1 then " element" else " elements")

/-! ## Writing -/

mutual

/-- A value in the form that a shape describes. -/
def Shape.encode : {α : Type} → Shape α → α → Json
  | _, .text, s => .text s
  | _, .flag, b => .bool b
  | _, .word _, n => .number (.integer n.toNat)
  | _, .byte, n => .number (.integer n.toNat)
  | _, .integer, i => .number (.integer i.toInt)
  | _, .any, v => v
  | _, .optional _, none => .null
  | _, .optional shape, some a => shape.encode a
  | _, .list shape, items => .list (items.map shape.encode)
  | _, .choice _ name, a => .text (name a)
  | _, .record _ _ fields _ parts, a => .object (fields.encode (parts a))

/-- The members of a record, in declared order, without those left out. -/
def Fields.encode : {β : Type} → Fields β → β → List (String × Json)
  | _, .done, () => []
  | _, .field name shape _ omitted more, (a, rest) =>
    if omitted a then more.encode rest else (name, shape.encode a) :: more.encode rest

end

/-! ## Reading back from a value -/

/-- A whole number within bounds. -/
def wholeNumber {α : Type} (expected : String) (low high : Int) (make : Int → α) :
    Json → Except Misfit α
  | .number (.integer i) =>
    if low ≤ i ∧ i < high then .ok (make i)
    else .error (.wrongValue (.number (.integer i)) expected)
  | v => .error (.wrongType v.found expected)

/-- The value with a name. -/
def chosen {α : Type} (values : List α) (name : α → String) (s : String) : Except Misfit α :=
  match values.find? fun a => name a == s with
  | some a => .ok a
  | none => .error (.unknownVariant s (values.map name))

/-- One of the values listed, from its name or from an object with the name as its only key. -/
def choiceOf {α : Type} (values : List α) (name : α → String) : Json → Except Misfit α
  | .text s => chosen values name s
  | .object [(key, v)] => do
    let a ← chosen values name key
    match v with
    | .null => .ok a
    | v => .error (.wrongType v.found "unit")
  | .object _ => .error (.wrongValue .map "map with a single key")
  | v => .error (.wrongType v.found "string or map")

mutual

/-- The value of which a JSON value is the form. -/
def Shape.decode : {α : Type} → Shape α → Json → Except Misfit α
  | _, .text, v =>
    match v with
    | .text s => .ok s
    | v => .error (.wrongType v.found "a string")
  | _, .flag, v =>
    match v with
    | .bool b => .ok b
    | v => .error (.wrongType v.found "a boolean")
  | _, .word name, v => wholeNumber name 0 (Int.pow 2 64) (fun i => UInt64.ofNat i.toNat) v
  | _, .byte, v => wholeNumber "u8" 0 (Int.pow 2 8) (fun i => UInt8.ofNat i.toNat) v
  | _, .integer, v => wholeNumber "i64" (-Int.pow 2 63) (Int.pow 2 63) Int64.ofInt v
  | _, .any, v => .ok v
  | _, .optional shape, v =>
    match v with
    | .null => .ok none
    | v => (shape.decode v).map some
  | _, .list shape, v =>
    match v with
    | .list items => items.mapM shape.decode
    | v => .error (.wrongType v.found "a sequence")
  | _, .choice values name, v => choiceOf values name v
  | _, .record name strictness fields make _, v =>
    match v with
    | .object members =>
      (members.foldlM (fun slots (key, v) =>
        (fields.put strictness fields.names key v slots)) fields.empty >>= fields.finish).map make
    | .list items => do
      let (b, left) ← fields.ofItems name fields.count 0 items
      if left.isEmpty then .ok (make b)
      else .error (.wrongLength items.length "fewer elements in array")
    | v => .error (.wrongType v.found ("struct " ++ name))

/-- A member put into the slot of its field; `known` are the names of all the fields. -/
def Fields.put : {β : Type} → (fields : Fields β) → Strictness → List String → String → Json →
    fields.Slots → Except Misfit fields.Slots
  | _, .done => fun strictness known key _ () =>
    if strictness = .denyUnknown then .error (.unknownField key known) else .ok ()
  | _, .field name shape _ _ more => fun strictness known key v (slot, slots) =>
    if key = name then
      if slot.isSome then .error (.duplicateField name)
      else (shape.decode v).map fun a => (some a, slots)
    else (more.put strictness known key v slots).map (slot, ·)

/-- The fields in declared order from the items of a list, and the items left over; `total` is
    the number of all the fields and `index` that of the fields already read. -/
def Fields.ofItems : {β : Type} → Fields β → String → Nat → Nat → List Json →
    Except Misfit (β × List Json)
  | _, .done, _, _, _, items => .ok ((), items)
  | _, .field _ shape absent _ more, record, total, index, items =>
    match items, absent with
    | v :: items, _ => do
      let a ← shape.decode v
      let (rest, left) ← more.ofItems record total (index + 1) items
      .ok ((a, rest), left)
    | [], some a => do
      let (rest, left) ← more.ofItems record total (index + 1) []
      .ok ((a, rest), left)
    | [], none => .error (.wrongLength index (expectedFields record total))

end

end FunctionCalling.Json
