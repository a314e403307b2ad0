/-
  Where and how a value breaks a schema.

  A `Violation` is a path into the value, the part of the value found there and the rule it
  breaks.  `Violation.finding` words it: the path as a JSON pointer, in which `~` and `/` inside a
  key are escaped, then the text of the fault.
-/
import FunctionCalling.Json.Printer
import FunctionCalling.Schema.Validator

namespace FunctionCalling.Schema

open FunctionCalling.Text

/-- The rule that a value breaks. -/
inductive Fault where
  | wrongType (allowed : List String)
  | notConst (expected : Json)
  | notInEnum (options : List Json)
  | belowMinimum (limit : Json.Number)
  | aboveMaximum (limit : Json.Number)
  | notAboveMinimum (limit : Json.Number)
  | notBelowMaximum (limit : Json.Number)
  | notMultiple (divisor : Json.Number)
  | tooShort (limit : Nat)
  | tooLong (limit : Nat)
  | tooFewItems (limit : Nat)
  | tooManyItems (limit : Nat)
  | tooFewProperties (limit : Nat)
  | tooManyProperties (limit : Nat)
  | missing (name : String)
  | noMatch (pattern : String)
  | notUnique
  | unexpected (names : List String)
  | forbidden
  | noneOfAny
  | noneOfOne
  | manyOfOne
  | excluded (schema : Json)

/-- A fault of the part of a value at a path; the path is kept innermost step first. -/
structure Violation where
  path : List String
  part : Json
  fault : Fault

/-! ## Wording -/

/-- A step of a JSON pointer. -/
def escapeStep (step : String) : String :=
  String.ofList (step.toList.flatMap fun c =>
    match c with
    | '~' => ['~', '0']
    | '/' => ['~', '1']
    | c => [c])

/-- The JSON pointer of a path that is kept innermost step first. -/
def pointer (path : List String) : String :=
  path.foldl (fun later step => "/" ++ escapeStep step ++ later) ""

/-- A count with the noun it counts. -/
def counted (n : Nat) (one many : String) : String :=
  toString n ++ " " ++ (if n = 1 then one else many)

/-- The options of an `enum`; of four and more only the first two are named. -/
def optionList (options : List Json) : String :=
  match options with
  | [] => ""
  | [a] => a.compact
  | [a, b] => a.compact ++ " or " ++ b.compact
  | [a, b, c] => a.compact ++ ", " ++ b.compact ++ " or " ++ c.compact
  | a :: b :: rest =>
    a.compact ++ ", " ++ b.compact ++ " or " ++ toString rest.length ++ " other candidates"

/-- The text of a fault of a value. -/
def Fault.message (v : Json) : Fault → String
  | .wrongType [t] => v.compact ++ " is not of type \"" ++ t ++ "\""
  | .wrongType ts =>
    v.compact ++ " is not of types " ++ join ", " (ts.map fun t => "\"" ++ t ++ "\"")
  | .notConst expected => expected.compact ++ " was expected"
  | .notInEnum options => v.compact ++ " is not one of " ++ optionList options
  | .belowMinimum l => v.compact ++ " is less than the minimum of " ++ l.toText
  | .aboveMaximum l => v.compact ++ " is greater than the maximum of " ++ l.toText
  | .notAboveMinimum l => v.compact ++ " is less than or equal to the minimum of " ++ l.toText
  | .notBelowMaximum l => v.compact ++ " is greater than or equal to the maximum of " ++ l.toText
  | .notMultiple d => v.compact ++ " is not a multiple of " ++ d.toText
  | .tooShort n => v.compact ++ " is shorter than " ++ counted n "character" "characters"
  | .tooLong n => v.compact ++ " is longer than " ++ counted n "character" "characters"
  | .tooFewItems n => v.compact ++ " has less than " ++ counted n "item" "items"
  | .tooManyItems n => v.compact ++ " has more than " ++ counted n "item" "items"
  | .tooFewProperties n => v.compact ++ " has less than " ++ counted n "property" "properties"
  | .tooManyProperties n => v.compact ++ " has more than " ++ counted n "property" "properties"
  | .missing name => Json.quotedText name ++ " is a required property"
  | .noMatch pattern => v.compact ++ " does not match " ++ Json.quotedText pattern
  | .notUnique => v.compact ++ " has non-unique elements"
  | .unexpected names =>
    "Additional properties are not allowed (" ++ join ", " (names.map fun n => "'" ++ n ++ "'")
      ++ (if names.length = 1 then " was" else " were") ++ " unexpected)"
  | .forbidden => "False schema does not allow " ++ v.compact
  | .noneOfAny =>
    v.compact ++ " is not valid under any of the schemas listed in the 'anyOf' keyword"
  | .noneOfOne =>
    v.compact ++ " is not valid under any of the schemas listed in the 'oneOf' keyword"
  | .manyOfOne =>
    v.compact ++ " is valid under more than one of the schemas listed in the 'oneOf' keyword"
  | .excluded schema => schema.compact ++ " is not allowed for " ++ v.compact

/-- A violation in words. -/
def Violation.finding (v : Violation) : Finding :=
  ⟨pointer v.path, v.fault.message v.part⟩

example : pointer ["k", "a/b~"] = "/a~1b~0/k" := by decide +kernel

end FunctionCalling.Schema
