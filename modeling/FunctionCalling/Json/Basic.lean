/-
  JSON values.

  A number is an integer or a double, and the two stay apart: `1` and `1.0` are different
  values that compare equal only where a rule says "by value" (`Json.alike`).  An object is a
  list of members in the order in which they are written.  Objects that were read from text
  have their members sorted by key with no key twice (`Json.ofMembers` builds such an object);
  objects that this library writes for its own records keep the order of the record's fields.
-/
import FunctionCalling.Number.Shortest

namespace FunctionCalling

open Number

/-- A JSON number: an integer that was written without fraction and exponent, or a double. -/
inductive Json.Number where
  | integer (value : Int)
  | real (value : Binary64)
deriving DecidableEq, Repr

/-- A JSON value. -/
inductive Json where
  | null
  | bool (value : Bool)
  | number (value : Json.Number)
  | text (value : String)
  | list (items : List Json)
  | object (members : List (String × Json))
deriving Repr

namespace Json

/-! ## Equality -/

mutual

/-- Whether two values are equal, numbers being equal when they are written alike. -/
def same : Json → Json → Bool
  | .null, .null => true
  | .bool a, .bool b => a == b
  | .number a, .number b => a == b
  | .text a, .text b => a == b
  | .list a, .list b => sameItems a b
  | .object a, .object b => sameMembers a b
  | _, _ => false

/-- `same` item by item. -/
def sameItems : List Json → List Json → Bool
  | [], [] => true
  | v :: a, w :: b => same v w && sameItems a b
  | _, _ => false

/-- `same` member by member, in order. -/
def sameMembers : List (String × Json) → List (String × Json) → Bool
  | [], [] => true
  | (k, v) :: a, (l, w) :: b => k == l && same v w && sameMembers a b
  | _, _ => false

end

mutual

theorem same_iff : ∀ {a b : Json}, same a b = true ↔ a = b
  | .null, b => by cases b <;> simp [same]
  | .bool a, b => by cases b <;> simp [same]
  | .number a, b => by cases b <;> simp [same]
  | .text a, b => by cases b <;> simp [same]
  | .list a, b => by cases b <;> simp [same, sameItems_iff]
  | .object a, b => by cases b <;> simp [same, sameMembers_iff]

theorem sameItems_iff : ∀ {a b : List Json}, sameItems a b = true ↔ a = b
  | [], b => by cases b <;> simp [sameItems]
  | v :: a, b => by cases b <;> simp [sameItems, same_iff (a := v), sameItems_iff (a := a)]

theorem sameMembers_iff : ∀ {a b : List (String × Json)}, sameMembers a b = true ↔ a = b
  | [], b => by cases b <;> simp [sameMembers]
  | (k, v) :: a, b => by
    cases b <;> simp [sameMembers, Prod.ext_iff, same_iff (a := v), sameMembers_iff (a := a)]

end

instance : DecidableEq Json :=
  fun _ _ => decidable_of_iff _ same_iff

/-! ## Numbers by value -/

namespace Number

/-- The value as a quotient: a signed numerator over a positive denominator. -/
def ratio : Json.Number → Int × Nat
  | .integer i => (i, 1)
  | .real x =>
    let (n, d) := x.magnitude
    (if x.negative then -(n : Int) else n, d)

/-- The order of the values. -/
def compare (a b : Json.Number) : Ordering :=
  let (n, d) := a.ratio
  let (m, e) := b.ratio
  Ord.compare (n * e) (m * d)

/-- Whether the value is a whole number, however it was written. -/
def isWhole (a : Json.Number) : Bool :=
  let (n, d) := a.ratio
  n % d = 0

/-- The shortest decimal of the value as a quotient: a signed numerator over a positive
    denominator. -/
def decimalRatio : Json.Number → Int × Nat
  | .integer i => (i, 1)
  | .real x =>
    if x.mantissa = 0 then (0, 1) else
      let d := x.shortest
      let n := d.digits * Nat.pow 10 d.exponent.toNat
      (if x.negative then -(n : Int) else n, Nat.pow 10 (-d.exponent).toNat)

/-- Whether `a` is a whole multiple of `b`.  When `b` is whole the exact values count; otherwise
    both count as the decimals they are shown as, so that 0.3 is a multiple of 0.1. -/
def isMultipleOf (a b : Json.Number) : Bool :=
  let (n, d) := if b.isWhole then a.ratio else a.decimalRatio
  let (m, e) := if b.isWhole then b.ratio else b.decimalRatio
  (n * e) % (m * d) = 0

/-- The text of a number: an integer in decimal, a double with the fewest digits. -/
def toText : Json.Number → String
  | .integer i => toString i
  | .real x => x.toText

end Number

/-! ## Members -/

/-- A member put in its place among members sorted by key; a member with the same key is
    replaced. -/
def insertMember (key : String) (value : Json) : List (String × Json) → List (String × Json)
  | [] => [(key, value)]
  | (k, v) :: rest =>
    if key < k then (key, value) :: (k, v) :: rest
    else if key = k then (key, value) :: rest
    else (k, v) :: insertMember key value rest

/-- Members sorted by key, by code point; of members with one key the last is kept. -/
def sortMembers (members : List (String × Json)) : List (String × Json) :=
  members.foldl (fun sorted (k, v) => insertMember k v sorted) []

/-- An object with its members sorted by key. -/
def ofMembers (members : List (String × Json)) : Json :=
  .object (sortMembers members)

/-- The value under a key, when the value is an object that has it. -/
def get? (key : String) : Json → Option Json
  | .object members => members.lookup key
  | _ => none

/-! ## Sorting and comparing whole values -/

mutual

/-- The same value with the members of every object in it sorted. -/
def sorted : Json → Json
  | .list items => .list (sortedItems items)
  | .object members => ofMembers (sortedMembers members)
  | v => v

/-- `sorted` for each item. -/
def sortedItems : List Json → List Json
  | [] => []
  | v :: rest => sorted v :: sortedItems rest

/-- `sorted` for the value of each member. -/
def sortedMembers : List (String × Json) → List (String × Json)
  | [] => []
  | (k, v) :: rest => (k, sorted v) :: sortedMembers rest

end

mutual

/-- Whether two values are the same up to the way their numbers are written: `1` is `1.0`.
    Objects are expected with sorted members. -/
def alike : Json → Json → Bool
  | .null, .null => true
  | .bool a, .bool b => a == b
  | .number a, .number b => a.compare b == .eq
  | .text a, .text b => a == b
  | .list a, .list b => alikeItems a b
  | .object a, .object b => alikeMembers a b
  | _, _ => false

/-- `alike` item by item. -/
def alikeItems : List Json → List Json → Bool
  | [], [] => true
  | v :: a, w :: b => alike v w && alikeItems a b
  | _, _ => false

/-- `alike` member by member, keys being equal. -/
def alikeMembers : List (String × Json) → List (String × Json) → Bool
  | [], [] => true
  | (k, v) :: a, (l, w) :: b => k == l && alike v w && alikeMembers a b
  | _, _ => false

end

end Json

end FunctionCalling
