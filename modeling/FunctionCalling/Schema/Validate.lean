/-
  Checking a value against a schema.

  This is the validator of the program (`Validator.builtIn`).  It goes by the keywords that are
  named below and passes over all others.

  `violations` lists everything that is wrong, in a fixed order: the assertions about the value
  as a whole in the order of `assertions`, then missing properties, the pattern, uniqueness, the
  properties, the items, the combined schemas and the reference.

  Three rules about objects stand out:

  1. beside `properties`, a schema for additional properties is applied in one pass with them, in
     the order of the value's keys;
  2. `additionalProperties: false` beside `properties` lists the unexpected keys in one fault,
     and a single `required` name is then checked after it;
  3. `additionalProperties: false` without `properties` reports only the first property, as a
     fault of that property at the path of the object.

  A reference leads back into the document, so the recursion is bounded: a chain of schemas that
  comes back to where it started without going into the value is cut.
-/
import FunctionCalling.Schema.Violation
import FunctionCalling.Schema.WellFormed

namespace FunctionCalling.Schema

/-! ## Assertions about a value as a whole -/

/-- Whether a value is of a type. -/
def hasType (v : Json) (type : String) : Bool :=
  match v, type with
  | .null, "null" => true
  | .bool _, "boolean" => true
  | .number _, "number" => true
  | .number n, "integer" => n.isWhole
  | .text _, "string" => true
  | .list _, "array" => true
  | .object _, "object" => true
  | _, _ => false

/-- The names in the value of `type`, in alphabetical order. -/
def namedTypes : Json → List String
  | .text s => [s]
  | .list items => typeNames.filter fun t => items.any (Json.alike (.text t))
  | _ => []

/-- A fault if a condition does not hold. -/
def faultUnless (holds : Bool) (fault : Fault) : List Fault :=
  if holds then [] else [fault]

/-- Compares a number with a limit. -/
def compared (limit v : Json) (accepts : Ordering → Bool) (fault : Json.Number → Fault) :
    List Fault :=
  match limit, v with
  | .number l, .number n => faultUnless (accepts (n.compare l)) (fault l)
  | _, _ => []

/-- Compares a size with a limit, for the values that have that size. -/
def sized (limit : Json) (size : Option Nat) (accepts : Nat → Nat → Bool) (fault : Nat → Fault) :
    List Fault :=
  match natural? limit, size with
  | some l, some n => faultUnless (accepts n l) (fault l)
  | _, _ => []

/-- The number of characters of a string. -/
def length? : Json → Option Nat
  | .text s => some s.length
  | _ => none

/-- The number of items of a list. -/
def items? : Json → Option Nat
  | .list items => some items.length
  | _ => none

/-- The number of properties of an object. -/
def properties? : Json → Option Nat
  | .object members => some members.length
  | _ => none

/-- The keywords that assert something about a value as a whole, in the order of their faults. -/
def assertions : List (String × (Json → Json → List Fault)) :=
  [("type", fun t v => faultUnless ((namedTypes t).any (hasType v)) (.wrongType (namedTypes t))),
   ("const", fun c v => faultUnless (Json.alike c v) (.notConst c)),
   ("enum", fun e v =>
      match e with
      | .list options => faultUnless (options.any (Json.alike v)) (.notInEnum options)
      | _ => []),
   ("minimum", fun l v => compared l v (· != .lt) .belowMinimum),
   ("maximum", fun l v => compared l v (· != .gt) .aboveMaximum),
   ("exclusiveMinimum", fun l v => compared l v (· == .gt) .notAboveMinimum),
   ("exclusiveMaximum", fun l v => compared l v (· == .lt) .notBelowMaximum),
   ("multipleOf", fun d v =>
      match d, v with
      | .number d, .number n => faultUnless (n.isMultipleOf d) (.notMultiple d)
      | _, _ => []),
   ("minLength", fun l v => sized l (length? v) (fun n l => l ≤ n) .tooShort),
   ("maxLength", fun l v => sized l (length? v) (fun n l => n ≤ l) .tooLong),
   ("minItems", fun l v => sized l (items? v) (fun n l => l ≤ n) .tooFewItems),
   ("maxItems", fun l v => sized l (items? v) (fun n l => n ≤ l) .tooManyItems),
   ("minProperties", fun l v => sized l (properties? v) (fun n l => l ≤ n) .tooFewProperties),
   ("maxProperties", fun l v => sized l (properties? v) (fun n l => n ≤ l) .tooManyProperties)]

/-- The faults of a value against the assertions of a schema. -/
def assertionFaults (schema : List (String × Json)) (v : Json) : List Fault :=
  assertions.flatMap fun (keyword, check) =>
    match schema.lookup keyword with
    | some limit => check limit v
    | none => []

/-! ## Faults of objects, strings and lists -/

/-- The names that `required` lists. -/
def requiredNames (schema : List (String × Json)) : List String :=
  match schema.lookup "required" with
  | some (.list names) => names.filterMap fun n =>
    match n with
    | .text s => some s
    | _ => none
  | _ => []

/-- A fault for each required property that an object does not have. -/
def missingFaults (schema : List (String × Json)) : Json → List Fault
  | .object members =>
    ((requiredNames schema).filter fun n => (members.lookup n).isNone).map .missing
  | _ => []

/-- A fault when no part of a string matches the pattern. -/
def patternFaults (schema : List (String × Json)) (v : Json) : List Fault :=
  match schema.lookup "pattern", v with
  | some (.text p), .text s =>
    match Pattern.parse? p with
    | some pattern => faultUnless (pattern.isFoundIn s) (.noMatch p)
    | none => []
  | _, _ => []

/-- A fault when two items are alike. -/
def uniqueFaults (schema : List (String × Json)) (v : Json) : List Fault :=
  match schema.lookup "uniqueItems", v with
  | some (.bool true), .list items => faultUnless (allDifferent items) .notUnique
  | _, _ => []

/-- What a schema says about properties: `properties`, if present, and `additionalProperties`,
    if present and not `true`. -/
structure PropertyRules where
  named : Option (List (String × Json))
  others : Option Json

/-- The rules about properties of a schema. -/
def propertyRules (schema : List (String × Json)) : PropertyRules where
  named :=
    match schema.lookup "properties" with
    | some (.object members) => some members
    | _ => none
  others :=
    match schema.lookup "additionalProperties" with
    | some (.bool true) => none
    | other => other

/-- Whether a single required name is checked after the unexpected properties. -/
def PropertyRules.requiredLast (rules : PropertyRules) (schema : List (String × Json)) : Bool :=
  match rules with
  | ⟨some _, some (.bool false)⟩ => (requiredNames schema).length == 1
  | _ => false

/-- The members of an object under a keyword that holds a list of schemas. -/
def schemasUnder (schema : List (String × Json)) (keyword : String) : List Json :=
  match schema.lookup keyword with
  | some (.list schemas) => schemas
  | _ => []

/-! ## Everything that is wrong -/

/-- What is wrong with the part of a value at a path, at most `fuel` schemas deep. -/
def violationsFrom (document : Json) : Nat → Json → List String → Json → List Violation
  | 0, _, _, _ => []
  | _ + 1, .bool true, _, _ => []
  | _ + 1, .bool false, path, v => [⟨path, v, .forbidden⟩]
  | fuel + 1, .object schema, path, v =>
    let check := violationsFrom document fuel
    let here (faults : List Fault) : List Violation := faults.map (⟨path, v, ·⟩)
    let rules := propertyRules schema
    let missing := here (missingFaults schema v)
    let early := if rules.requiredLast schema then [] else missing
    let late := if rules.requiredLast schema then missing else []
    let properties : List Violation :=
      match v, rules with
      | .object members, ⟨some named, some (.bool false)⟩ =>
        let strange := (members.filter fun (k, _) => (named.lookup k).isNone).map (·.1)
        (members.flatMap fun (k, w) =>
          match named.lookup k with
          | some s => check s (k :: path) w
          | none => []) ++ here (if strange.isEmpty then [] else [.unexpected strange]) ++ late
      | .object members, ⟨some named, some other⟩ =>
        members.flatMap fun (k, w) => check ((named.lookup k).getD other) (k :: path) w
      | .object members, ⟨some named, none⟩ =>
        named.flatMap fun (k, s) =>
          match members.lookup k with
          | some w => check s (k :: path) w
          | none => []
      | .object ((_, w) :: _), ⟨none, some (.bool false)⟩ => [⟨path, w, .forbidden⟩]
      | .object members, ⟨none, some other⟩ =>
        members.flatMap fun (k, w) => check other (k :: path) w
      | _, _ => []
    let items : List Violation :=
      match schema.lookup "items", v with
      | some s, .list items =>
        (items.zipIdx.map fun (w, i) => check s (toString i :: path) w).flatten
      | _, _ => []
    let valid (s : Json) : Bool := (check s path v).isEmpty
    let all := (schemasUnder schema "allOf").flatMap fun s => check s path v
    let any :=
      match schemasUnder schema "anyOf" with
      | [] => []
      | schemas => faultUnless (schemas.any valid) .noneOfAny
    let one :=
      match schemasUnder schema "oneOf" with
      | [] => []
      | schemas =>
        match (schemas.filter valid).length with
        | 0 => [.noneOfOne]
        | 1 => []
        | _ => [.manyOfOne]
    let excluded :=
      match schema.lookup "not" with
      | some s => faultUnless (!valid s) (.excluded s)
      | none => []
    let referred :=
      match schema.lookup "$ref" with
      | some (.text r) =>
        match target? document r with
        | some s => check s path v
        | none => []
      | _ => []
    here (assertionFaults schema v) ++ early
      ++ here (patternFaults schema v ++ uniqueFaults schema v)
      ++ properties ++ items ++ all ++ here (any ++ one ++ excluded) ++ referred
  | _ + 1, _, _, _ => []

/-- What is wrong with a value against a schema that can be used as one. -/
def violations (schema v : Json) : List Violation :=
  violationsFrom schema ((size schema + 1) * (size v + 1)) schema [] v

/-- The validator of the program: every schema that is well formed can be used. -/
def Validator.builtIn : Validator where
  compile? schema :=
    if wellFormed schema then some fun v => (violations schema v).map Violation.finding else none

end FunctionCalling.Schema
