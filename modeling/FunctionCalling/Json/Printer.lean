/-
  JSON values as text.

  `compact` writes no space; `pretty` indents by two spaces, one item or member a line, and
  writes an empty list or object as its two brackets.  Members are written in the order they
  have.  Inside strings the quote, the backslash and the controls below U+0020 are escaped and
  every other character is written as it is.
-/
import FunctionCalling.Json.Basic
import FunctionCalling.Text.Quoted

namespace FunctionCalling.Json

open FunctionCalling.Text

/-! ## Strings -/

/-- How one character is written inside a JSON string. -/
def escapeChar (c : Char) : List Char :=
  match c with
  | '"' => ['\\', '"']
  | '\\' => ['\\', '\\']
  | '\x08' => ['\\', 'b']
  | '\t' => ['\\', 't']
  | '\n' => ['\\', 'n']
  | '\x0c' => ['\\', 'f']
  | '\r' => ['\\', 'r']
  | c =>
    if c.toNat < 0x20 then
      '\\' :: 'u' :: '0' :: '0' :: (if c.toNat < 0x10 then '0' :: hex c.toNat else hex c.toNat)
    else [c]

/-- A JSON string: the text between quotes, escaped. -/
def quotedText (s : String) : String :=
  s.toList.foldl (fun out c => (escapeChar c).foldl String.push out) "\"" ++ "\""

/-! ## Compact -/

mutual

/-- A value on one line, without spaces. -/
def compact : Json → String
  | .null => "null"
  | .bool true => "true"
  | .bool false => "false"
  | .number n => n.toText
  | .text s => quotedText s
  | .list items => "[" ++ join "," (compactItems items) ++ "]"
  | .object members => "\x7b" ++ join "," (compactMembers members) ++ "\x7d"

/-- The items of a list, each compact. -/
def compactItems : List Json → List String
  | [] => []
  | v :: rest => compact v :: compactItems rest

/-- The members of an object, each as key, colon and compact value. -/
def compactMembers : List (String × Json) → List String
  | [] => []
  | (k, v) :: rest => (quotedText k ++ ":" ++ compact v) :: compactMembers rest

end

/-! ## Indented -/

/-- A line break and the indentation of a depth. -/
def newline (depth : Nat) : String :=
  String.ofList ('\n' :: List.replicate (2 * depth) ' ')

/-- Brackets around parts, each part on a line of its own one level deeper. -/
def block (opening closing : String) (depth : Nat) (parts : List String) : String :=
  if parts.isEmpty then opening ++ closing
  else opening ++ newline (depth + 1) ++ join ("," ++ newline (depth + 1)) parts
    ++ newline depth ++ closing

mutual

/-- A value that starts at an indentation depth. -/
def prettyAt (depth : Nat) : Json → String
  | .list items => block "[" "]" depth (prettyItems (depth + 1) items)
  | .object members => block "\x7b" "\x7d" depth (prettyMembers (depth + 1) members)
  | v => compact v

/-- The items of a list, each at the depth. -/
def prettyItems (depth : Nat) : List Json → List String
  | [] => []
  | v :: rest => prettyAt depth v :: prettyItems depth rest

/-- The members of an object, each at the depth. -/
def prettyMembers (depth : Nat) : List (String × Json) → List String
  | [] => []
  | (k, v) :: rest => (quotedText k ++ ": " ++ prettyAt depth v) :: prettyMembers depth rest

end

/-- A value indented by two spaces a level. -/
def pretty (v : Json) : String :=
  prettyAt 0 v

example : compact (.object [("a", .list [.number (.integer 1), .null])]) =
    "\x7b\"a\":[1,null]\x7d" := by decide +kernel
example : pretty (.list [.list [], .bool true]) = "[\n  [],\n  true\n]" := by decide +kernel

end FunctionCalling.Json
