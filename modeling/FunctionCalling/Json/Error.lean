/-
  What can be wrong with a JSON text or value, and how it is said.

  1. A `Misfit` is a well-formed piece of JSON that is not what was asked for: a wrong type, an
     unknown name, a missing field.
  2. A `Cause` is a misfit or a fault of the text itself.
  3. A `Json.Error` is a cause with the position at which it was noticed; a misfit found in a
     value that has no text has no position.

  `Json.Error.message` is the only place that words them.
-/
import FunctionCalling.Json.Basic
import FunctionCalling.Text.Quoted

namespace FunctionCalling.Json

open FunctionCalling.Text

/-- A place in a text: the line, from 1, and the bytes of that line read so far. -/
structure Position where
  line : Nat
  column : Nat
deriving DecidableEq, Repr

/-! ## Causes -/

/-- What stood where something else was expected. -/
inductive Found where
  | null
  | bool (value : Bool)
  | number (value : Json.Number)
  | text (value : String)
  | sequence
  | map
deriving DecidableEq, Repr

/-- A piece of JSON that is not what was asked for. -/
inductive Misfit where
  | wrongType (found : Found) (expected : String)
  | wrongValue (found : Found) (expected : String)
  | wrongLength (length : Nat) (expected : String)
  | unknownVariant (name : String) (known : List String)
  | unknownField (name : String) (known : List String)
  | missingField (name : String)
  | duplicateField (name : String)
deriving DecidableEq, Repr

/-- What is wrong. -/
inductive Cause where
  | endInValue
  | endInString
  | endInList
  | endInObject
  | expectedColon
  | expectedCommaOrBracket
  | expectedCommaOrBrace
  | expectedWord
  | expectedValue
  | invalidEscape
  | invalidNumber
  | numberOutOfRange
  | loneSurrogate
  | endInSurrogates
  | controlCharacter
  | keyNotString
  | trailingComma
  | trailingCharacters
  | nestedTooDeep
  | misfit (fault : Misfit)
deriving DecidableEq, Repr

/-- A cause and, when there is a text, the position where it was noticed. -/
structure Error where
  cause : Cause
  position : Option Position
deriving DecidableEq, Repr

/-! ## Wording -/

/-- What was found, in words. -/
def Found.describe : Found → String
  | .null => "null"
  | .bool b => "boolean `" ++ (if b then "true" else "false") ++ "`"
  | .number (.integer i) => "integer `" ++ toString i ++ "`"
  | .number (.real x) => "floating point `" ++ x.toText ++ "`"
  | .text s => "string " ++ quoted s
  | .sequence => "sequence"
  | .map => "map"

/-- The first thing a reader of a value meets. -/
def found : Json → Found
  | .null => .null
  | .bool b => .bool b
  | .number n => .number n
  | .text s => .text s
  | .list _ => .sequence
  | .object _ => .map

/-- The names that would have been accepted. -/
def oneOf : List String → String
  | [] => ""
  | [a] => "`" ++ a ++ "`"
  | [a, b] => "`" ++ a ++ "` or `" ++ b ++ "`"
  | names => "one of " ++ join ", " (names.map fun n => "`" ++ n ++ "`")

/-- A misfit, in words. -/
def Misfit.message : Misfit → String
  | .wrongType f e => "invalid type: " ++ f.describe ++ ", expected " ++ e
  | .wrongValue f e => "invalid value: " ++ f.describe ++ ", expected " ++ e
  | .wrongLength n e => "invalid length " ++ toString n ++ ", expected " ++ e
  | .unknownVariant n [] => "unknown variant `" ++ n ++ "`, there are no variants"
  | .unknownVariant n known => "unknown variant `" ++ n ++ "`, expected " ++ oneOf known
  | .unknownField n [] => "unknown field `" ++ n ++ "`, there are no fields"
  | .unknownField n known => "unknown field `" ++ n ++ "`, expected " ++ oneOf known
  | .missingField n => "missing field `" ++ n ++ "`"
  | .duplicateField n => "duplicate field `" ++ n ++ "`"

/-- A cause, in words. -/
def Cause.message : Cause → String
  | .endInValue => "EOF while parsing a value"
  | .endInString => "EOF while parsing a string"
  | .endInList => "EOF while parsing a list"
  | .endInObject => "EOF while parsing an object"
  | .expectedColon => "expected `:`"
  | .expectedCommaOrBracket => "expected `,` or `]`"
  | .expectedCommaOrBrace => "expected `,` or `\x7d`"
  | .expectedWord => "expected ident"
  | .expectedValue => "expected value"
  | .invalidEscape => "invalid escape"
  | .invalidNumber => "invalid number"
  | .numberOutOfRange => "number out of range"
  | .loneSurrogate => "lone leading surrogate in hex escape"
  | .endInSurrogates => "unexpected end of hex escape"
  | .controlCharacter => "control character (\\u0000-\\u001F) found while parsing a string"
  | .keyNotString => "key must be a string"
  | .trailingComma => "trailing comma"
  | .trailingCharacters => "trailing characters"
  | .nestedTooDeep => "recursion limit exceeded"
  | .misfit fault => fault.message

/-- The cause in words, followed by the position when there is one. -/
def Error.message (e : Error) : String :=
  match e.position with
  | none => e.cause.message
  | some p =>
    e.cause.message ++ " at line " ++ toString p.line ++ " column " ++ toString p.column

example : (Error.mk .expectedColon (some ⟨1, 6⟩)).message = "expected `:` at line 1 column 6" := by
  decide +kernel

end FunctionCalling.Json
