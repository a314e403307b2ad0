/-
  What checks arguments against a schema.

  Which schemas can be used, and what is wrong with a value that breaks one, is decided by whatever
  validator a host works with.  A `Validator` is just that: it turns a JSON value into a check, or
  finds that the value is no schema, and the check lists what is wrong with another value.  Nothing
  is assumed of it, neither which keywords it knows nor how it words what it finds.
-/
import FunctionCalling.Json.Basic

namespace FunctionCalling.Schema

/-- Something that is wrong with a value: a JSON pointer to the part, and what is said of it. -/
structure Finding where
  pointer : String
  text : String
deriving DecidableEq, Repr

/-- A finding as a line of a report. -/
def Finding.line (f : Finding) : String :=
  "  - " ++ f.pointer ++ ": " ++ f.text

/-- A way of checking values against schemas. -/
structure Validator where
  /-- The check that a schema stands for; none if it cannot be used as one. -/
  compile? : (schema : Json) → Option (Json → List Finding)

end FunctionCalling.Schema
