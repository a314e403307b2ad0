/-
  Text in double quotes and lists in brackets, as diagnostics show them.

  The quote and the backslash take a backslash; tab, line feed, carriage return and NUL have
  short forms; a character that cannot be shown, or that would join the one before it, is
  written by its code point in hexadecimal between braces.  Everything else stands for itself.
-/
import FunctionCalling.Text.Printable

namespace FunctionCalling.Text

/-- The digits of a number in base 16, without leading zeros. -/
def hex (n : Nat) : List Char :=
  Nat.toDigits 16 n

/-- How one character is written between the quotes. -/
def quoteChar (c : Char) : List Char :=
  match c with
  | '"' => ['\\', '"']
  | '\\' => ['\\', '\\']
  | '\t' => ['\\', 't']
  | '\n' => ['\\', 'n']
  | '\r' => ['\\', 'r']
  | '\x00' => ['\\', '0']
  | c =>
    if isPrintable c && !isGraphemeExtend c then [c]
    else '\\' :: 'u' :: '\x7b' :: hex c.toNat ++ ['\x7d']

/-- A text in double quotes. -/
def quoted (s : String) : String :=
  String.ofList ('"' :: s.toList.flatMap quoteChar ++ ['"'])

/-- Texts one after the other with a separator between them. -/
def join (separator : String) : List String → String
  | [] => ""
  | first :: rest => rest.foldl (fun out s => out ++ separator ++ s) first

/-- A list of shown things, between brackets and separated by a comma and a space. -/
def bracketed (items : List String) : String :=
  "[" ++ join ", " items ++ "]"

example : quoted "a\"b\\c\n" = "\"a\\\"b\\\\c\\n\"" := by decide +kernel

end FunctionCalling.Text
