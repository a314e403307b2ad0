/-
  Which JSON values can be used as schemas.

  1. Every keyword must have a value of its kind (`keywordsFit`): a schema is an object or a
     boolean, `required` is a list of different strings, a length is a natural number, and so
     on.  Unknown keywords may hold anything.
  2. Every pattern that validation can reach must be a regular expression, and every reference
     it can reach must lead to a schema in the same document (`reachableFit`).
-/
import FunctionCalling.Json.Basic
import FunctionCalling.Schema.Pattern.Parser

namespace FunctionCalling.Schema

/-! ## Kinds of keywords -/

/-- The names of the types. -/
def typeNames : List String :=
  ["array", "boolean", "integer", "null", "number", "object", "string"]

/-- Whether no two values of a list are alike. -/
def allDifferent : List Json → Bool
  | [] => true
  | v :: rest => !rest.any (Json.alike v) && allDifferent rest

/-- The natural number that a value denotes, however it is written. -/
def natural? : Json → Option Nat
  | .number n => if n.isWhole ∧ n.compare (.integer 0) ≠ .lt then some (wholePart n) else none
  | _ => none
where
  /-- The numerator over the denominator, rounded down. -/
  wholePart (n : Json.Number) : Nat :=
    (n.ratio.1 / n.ratio.2).toNat

/-- A string. -/
def isText : Json → Bool
  | .text _ => true
  | _ => false

/-- A boolean. -/
def isFlag : Json → Bool
  | .bool _ => true
  | _ => false

/-- A number. -/
def isNumber : Json → Bool
  | .number _ => true
  | _ => false

/-- A list. -/
def isList : Json → Bool
  | .list _ => true
  | _ => false

/-- A number above zero. -/
def isPositive : Json → Bool
  | .number n => n.compare (.integer 0) == .gt
  | _ => false

/-- A list of different strings. -/
def isNameList : Json → Bool
  | .list items => items.all isText && allDifferent items
  | _ => false

/-- The name of a type, or a list of different ones that is not empty. -/
def isTypes : Json → Bool
  | .text s => typeNames.contains s
  | .list items =>
    !items.isEmpty && allDifferent items && items.all fun v =>
      match v with
      | .text s => typeNames.contains s
      | _ => false
  | _ => false

/-- What a keyword may hold. -/
inductive Kind where
  /-- A schema. -/
  | schema
  /-- A list of schemas that is not empty. -/
  | schemas
  /-- An object whose members are schemas. -/
  | schemaMap
  /-- A value that passes a test. -/
  | plain (test : Json → Bool)

/-- The kind of a keyword; unknown keywords may hold anything. -/
def kindOf (keyword : String) : Kind :=
  if ["additionalProperties", "items", "not", "contains", "if", "then", "else", "propertyNames",
      "unevaluatedItems", "unevaluatedProperties", "contentSchema"].contains keyword then .schema
  else if ["allOf", "anyOf", "oneOf", "prefixItems"].contains keyword then .schemas
  else if ["properties", "$defs", "definitions", "patternProperties",
      "dependentSchemas"].contains keyword then .schemaMap
  else if ["title", "description", "$comment", "format", "pattern", "$ref", "$id", "$schema",
      "$anchor", "$dynamicRef", "$dynamicAnchor", "contentEncoding",
      "contentMediaType"].contains keyword then .plain isText
  else if ["minimum", "maximum", "exclusiveMinimum", "exclusiveMaximum"].contains keyword then
    .plain isNumber
  else if ["minLength", "maxLength", "minItems", "maxItems", "minProperties", "maxProperties",
      "minContains", "maxContains"].contains keyword then .plain fun v => (natural? v).isSome
  else if ["uniqueItems", "deprecated", "readOnly", "writeOnly"].contains keyword then
    .plain isFlag
  else if keyword = "type" then .plain isTypes
  else if keyword = "required" then .plain isNameList
  else if keyword = "multipleOf" then .plain isPositive
  else if keyword = "enum" || keyword = "examples" then .plain isList
  else .plain fun _ => true

/-! ## Every keyword has a value of its kind -/

mutual

/-- A schema whose keywords have values of their kinds. -/
def keywordsFit : Json → Bool
  | .bool _ => true
  | .object members => membersFit members
  | _ => false

/-- The keywords of a schema have values of their kinds. -/
def membersFit : List (String × Json) → Bool
  | [] => true
  | (keyword, v) :: rest =>
    (match kindOf keyword, v with
      | .schema, v => keywordsFit v
      | .schemas, .list items => !items.isEmpty && allFit items
      | .schemas, _ => false
      | .schemaMap, .object members => valuesFit members
      | .schemaMap, _ => false
      | .plain test, v => test v) && membersFit rest

/-- `keywordsFit` for each item. -/
def allFit : List Json → Bool
  | [] => true
  | v :: rest => keywordsFit v && allFit rest

/-- `keywordsFit` for the value of each member. -/
def valuesFit : List (String × Json) → Bool
  | [] => true
  | (_, v) :: rest => keywordsFit v && valuesFit rest

end

/-! ## References -/

/-- The steps of a JSON pointer, unescaped. -/
def pointerSteps (text : List Char) : List (List Char) :=
  let (steps, last) := text.foldr (fun c (steps, step) =>
    if c = '/' then (step :: steps, []) else (steps, c :: step)) ([], [])
  (last :: steps).map unescape
where
  /-- A step with `~1` and `~0` put back. -/
  unescape : List Char → List Char
    | '~' :: '1' :: rest => '/' :: unescape rest
    | '~' :: '0' :: rest => '~' :: unescape rest
    | c :: rest => c :: unescape rest
    | [] => []

/-- The part of a value that a step leads to. -/
def follow? (v : Json) (step : List Char) : Option Json :=
  match v with
  | .object members => members.lookup (String.ofList step)
  | .list items => if step.all Char.isDigit then (String.ofList step).toNat?.bind (items[·]?) else none
  | _ => none

/-- The part of a document that a reference names: the whole of it for `#`, or the part that a
    JSON pointer after `#` leads to. -/
def target? (document : Json) (reference : String) : Option Json :=
  match reference.toList with
  | ['#'] => some document
  | '#' :: '/' :: rest => (pointerSteps rest).foldlM follow? document
  | _ => none

/-! ## Everything that validation can reach -/

/-- The schemas that a schema applies to a value or its parts. -/
def subschemas (members : List (String × Json)) : List Json :=
  members.flatMap fun (keyword, v) =>
    if ["additionalProperties", "items", "not"].contains keyword then [v]
    else match keyword, v with
      | "allOf", .list items => items
      | "anyOf", .list items => items
      | "oneOf", .list items => items
      | "properties", .object properties => properties.map (·.2)
      | _, _ => []

/-- The pattern of a schema, if it has one, is a regular expression. -/
def patternFits (members : List (String × Json)) : Bool :=
  match members.lookup "pattern" with
  | some (.text p) => (Pattern.parse? p).isSome
  | _ => true

/-- Works through the schemas still to be looked at, following each reference once. -/
def reachableFit (document : Json) : Nat → List String → List Json → Bool
  | _, _, [] => true
  | 0, _, _ => true
  | fuel + 1, seen, .object members :: rest =>
    patternFits members &&
      (match members.lookup "$ref" with
        | some (.text r) =>
          match target? document r with
          | none => false
          | some t =>
            if seen.contains r then reachableFit document fuel seen (subschemas members ++ rest)
            else reachableFit document fuel (r :: seen) (t :: subschemas members ++ rest)
        | _ => reachableFit document fuel seen (subschemas members ++ rest))
  | fuel + 1, seen, .bool _ :: rest => reachableFit document fuel seen rest
  | _, _, _ => false

mutual

/-- The number of values in a value, itself included. -/
def size : Json → Nat
  | .list items => 1 + sizeAll items
  | .object members => 1 + sizeMembers members
  | _ => 1

/-- The sum of the sizes of items. -/
def sizeAll : List Json → Nat
  | [] => 0
  | v :: rest => size v + sizeAll rest

/-- The sum of the sizes of the values of members. -/
def sizeMembers : List (String × Json) → Nat
  | [] => 0
  | (_, v) :: rest => size v + sizeMembers rest

end

/-- Whether a JSON value can be used as a schema. -/
def wellFormed (schema : Json) : Bool :=
  let n := size schema
  keywordsFit schema && reachableFit schema ((n + 1) * (n + 1)) [] [schema]

end FunctionCalling.Schema
