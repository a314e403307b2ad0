/-
  The words, numbers and strings of a JSON text.

  Numbers.  An integer below 2^64 (or, negative, not below -2^63) stays an integer; anything
  else is a double.  Digits that no longer fit 64 bits only move the decimal point.  A minus
  sign before zero makes the double `-0.0`.

  Strings.  Escapes stand for characters; two escapes for a surrogate pair stand for one.
-/
import FunctionCalling.Json.Cursor

namespace FunctionCalling.Json.Reader

open FunctionCalling.Number

/-! ## Numbers -/

/-- Significands stay below this bound. -/
def significandLimit : Nat := Nat.pow 2 64

/-- Exponents stay below this bound. -/
def exponentLimit : Nat := Nat.pow 2 31

/-- The value of a decimal digit. -/
def digit? (c : Char) : Option Nat :=
  if c.isDigit then some (c.toNat - '0'.toNat) else none

/-- The value of the next character when it is a digit; it stays where it is. -/
def peekDigit : Reader (Option Nat) := do
  pure ((← peek).bind digit?)

/-- Passes digits and counts them. -/
def skipDigits : Nat → Nat → Reader Nat
  | 0, count => pure count
  | fuel + 1, count => do
    match ← peekDigit with
    | some _ => skip; skipDigits fuel (count + 1)
    | none => pure count

/-- Digits appended to a significand while it stays below the limit: the significand, how many
    digits were appended, and whether a digit was left because it did not fit. -/
def significand : Nat → Nat → Nat → Reader (Nat × Nat × Bool)
  | 0, value, count => pure (value, count, false)
  | fuel + 1, value, count => do
    match ← peekDigit with
    | none => pure (value, count, false)
    | some d =>
      if value * 10 + d < significandLimit then
        skip
        significand fuel (value * 10 + d) (count + 1)
      else pure (value, count, true)

/-- The double `± value · 10 ^ exponent`. -/
def real (negative : Bool) (value : Nat) (exponent : Int) : Reader Json.Number := fun c =>
  match Binary64.ofScientific value exponent with
  | some x => .done (.real (if negative then x.neg else x)) c
  | none => failHere .numberOutOfRange c

/-- The digits of an exponent after the first, and the number they complete. -/
def exponentDigits (negative : Bool) (value : Nat) (start : Int) (down : Bool) :
    Nat → Nat → Reader Json.Number
  | 0, _ => failHere .invalidNumber
  | fuel + 1, e => do
    match ← peekDigit with
    | none => real negative value (if down then start - e else start + e)
    | some d =>
      skip
      if e * 10 + d < exponentLimit then
        exponentDigits negative value start down fuel (e * 10 + d)
      else if value ≠ 0 ∧ !down then failHere .numberOutOfRange
      else
        let _ ← skipDigits fuel 0
        real negative 0 0

/-- An exponent, from its letter on, and the number it completes. -/
def exponentPart (negative : Bool) (value : Nat) (start : Int) : Reader Json.Number := do
  skip
  let sign ← peek
  if sign = some '+' ∨ sign = some '-' then skip
  match ← peek with
  | none => failHere .endInValue
  | some c =>
    match digit? c with
    | none => failNext .invalidNumber
    | some d =>
      skip
      exponentDigits negative value start (sign = some '-') ((← remaining) + 1) d

/-- What follows the last digit before an exponent. -/
def finishReal (negative : Bool) (value : Nat) (exponent : Int) : Reader Json.Number := do
  match ← peek with
  | some 'e' | some 'E' => exponentPart negative value exponent
  | _ => real negative value exponent

/-- A fraction, from the point on; `exponent` is the power of ten the digits so far stand for. -/
def fractionPart (negative : Bool) (value : Nat) (exponent : Int) : Reader Json.Number := do
  skip
  let (value, count, full) ← significand (← remaining) value 0
  if full then
    let _ ← skipDigits (← remaining) 0
    finishReal negative value (exponent - count)
  else if count = 0 then
    match ← peek with
    | some _ => failNext .invalidNumber
    | none => failHere .endInValue
  else finishReal negative value (exponent - count)

/-- What may follow the digits before the point. -/
def finishNumber (negative : Bool) (value : Nat) (full : Bool) : Reader Json.Number := do
  let dropped ← if full then skipDigits (← remaining) 0 else pure 0
  match ← peek with
  | some '.' => fractionPart negative value dropped
  | some 'e' | some 'E' => exponentPart negative value dropped
  | _ =>
    if full then real negative value dropped
    else if !negative then pure (.integer value)
    else if 0 < value ∧ value ≤ Nat.pow 2 63 then pure (.integer (-value))
    else real true value 0

/-- A number whose sign, if any, has been passed. -/
def unsignedNumber (negative : Bool) : Reader Json.Number := do
  match ← peek with
  | none => failHere .endInValue
  | some '0' =>
    skip
    if (← peekDigit).isSome then failNext .invalidNumber
    finishNumber negative 0 false
  | some c =>
    if c.isDigit then
      let (value, _, full) ← significand (← remaining) 0 0
      finishNumber negative value full
    else failNext .invalidNumber

/-- A number, which the next character begins. -/
def number : Reader Json.Number := do
  if (← peek) = some '-' then
    skip
    unsignedNumber true
  else unsignedNumber false

/-! ## Strings -/

/-- The value of a hexadecimal digit. -/
def hexDigit? (c : Char) : Option Nat :=
  if c.isDigit then some (c.toNat - '0'.toNat)
  else if 'a' ≤ c ∧ c ≤ 'f' then some (c.toNat - 'a'.toNat + 10)
  else if 'A' ≤ c ∧ c ≤ 'F' then some (c.toNat - 'A'.toNat + 10)
  else none

/-- The four digits of an escape.  Without four more bytes the text has ended too early, and
    otherwise an error is noticed after the fourth byte. -/
def fourHexDigits : Reader Nat := fun c =>
  match c.position.pastBytes 4 c.rest with
  | none => .broken ⟨.endInString, some (c.position.pastAll c.rest)⟩
  | some after =>
    match (c.rest.take 4).mapM hexDigit? with
    | some digits => (do skipMany 4; pure (digits.foldl (fun n d => n * 16 + d) 0)) c
    | none => .broken ⟨.invalidEscape, some after⟩

/-- A character that the second half of a surrogate pair must begin with. -/
def surrogateLink (expected : Char) : Reader Unit := do
  match ← peek with
  | none => failHere .endInString
  | some c => if c = expected then skip else failNext .endInSurrogates

/-- The character of an escape by code, of which the letter has been passed. -/
def unicodeEscape : Reader Char := do
  let n ← fourHexDigits
  if 0xDC00 ≤ n ∧ n ≤ 0xDFFF then failHere .loneSurrogate
  else if 0xD800 ≤ n ∧ n ≤ 0xDBFF then
    surrogateLink '\\'
    surrogateLink 'u'
    let low ← fourHexDigits
    if 0xDC00 ≤ low ∧ low ≤ 0xDFFF then
      pure (Char.ofNat (0x10000 + (n - 0xD800) * 0x400 + (low - 0xDC00)))
    else failHere .loneSurrogate
  else pure (Char.ofNat n)

/-- The character that a one-letter escape stands for. -/
def shortEscape? : Char → Option Char
  | '"' => some '"'
  | '\\' => some '\\'
  | '/' => some '/'
  | 'b' => some '\x08'
  | 'f' => some '\x0c'
  | 'n' => some '\n'
  | 'r' => some '\r'
  | 't' => some '\t'
  | _ => none

/-- The character of an escape, of which the backslash has been passed. -/
def escape : Reader Char := do
  match ← peek with
  | none => failHere .endInString
  | some 'u' => skip; unicodeEscape
  | some c =>
    match shortEscape? c with
    | some d => skip; pure d
    | none => failNext .invalidEscape

/-- The rest of a string whose opening quote has been passed; `read` holds what has been read,
    in reverse. -/
def stringFrom : Nat → List Char → Reader String
  | 0, _ => failHere .endInString
  | fuel + 1, read => do
    match ← peek with
    | none => failHere .endInString
    | some '"' => skip; pure (String.ofList read.reverse)
    | some '\\' => skip; stringFrom fuel ((← escape) :: read)
    | some c =>
      if c.toNat < 0x20 then failNext .controlCharacter
      else skip; stringFrom fuel (c :: read)

/-- A string, which the next character begins. -/
def string : Reader String := do
  skip
  stringFrom ((← remaining) + 1) []

end FunctionCalling.Json.Reader
