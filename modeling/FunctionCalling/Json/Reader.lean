/-
  JSON values read from text.

  1. `items` and `members` read the inside of a list and of an object, whatever the items are.
  2. `value` reads any JSON value; its first argument is how many lists and objects may still
     be opened inside each other, and it is what the recursion descends on.
  3. `ignored` passes over a value nobody asked for.  It checks less: no depth, no range of
     numbers, no pairing of surrogates.
-/
import FunctionCalling.Json.Scalar

namespace FunctionCalling.Json.Reader

/-- How many lists and objects may be open at once. -/
def depthLimit : Nat := 127

/-! ## Lists -/

/-- Whether another item follows; the comma before it is passed. -/
def moreItems (first : Bool) : Reader Bool := do
  match ← blank with
  | none => failHere .endInList
  | some ']' => pure false
  | some c =>
    if first then pure true
    else if c = ',' then
      skip
      match ← blank with
      | none => failHere .endInValue
      | some ']' => failNext .trailingComma
      | some _ => pure true
    else failNext .expectedCommaOrBracket

/-- The items of a list up to its closing bracket. -/
def itemsFrom {α : Type} (item : Reader α) : Nat → Bool → Reader (List α)
  | 0, _ => failHere .endInList
  | fuel + 1, first => do
    if ← moreItems first then
      let a ← item
      pure (a :: (← itemsFrom item fuel false))
    else pure []

/-- `itemsFrom` with enough steps for the whole text. -/
def items {α : Type} (item : Reader α) : Reader (List α) := do
  itemsFrom item ((← remaining) + 1) true

/-- The end of a list. -/
def listEnd : Reader Unit := do
  match ← blank with
  | none => failHere .endInList
  | some ']' => skip
  | some ',' =>
    skip
    if (← blank) = some ']' then failNext .trailingComma else failNext .trailingCharacters
  | some _ => failNext .trailingCharacters

/-! ## Objects -/

/-- Whether another member follows; the comma before it is passed. -/
def moreMembers (first : Bool) : Reader Bool := do
  match ← blank with
  | none => failHere .endInObject
  | some '\x7d' => pure false
  | some c =>
    if first then
      if c = '"' then pure true else failNext .keyNotString
    else if c = ',' then
      skip
      match ← blank with
      | none => failHere .endInValue
      | some '"' => pure true
      | some '\x7d' => failNext .trailingComma
      | some _ => failNext .keyNotString
    else failNext .expectedCommaOrBrace

/-- The colon between a key and its value. -/
def colon : Reader Unit := do
  match ← blank with
  | none => failHere .endInObject
  | some ':' => skip
  | some _ => failNext .expectedColon

/-- Works through the members of an object up to its closing brace: `member` is told the key,
    has the colon and the value before it, and carries a state along. -/
def membersFrom {σ : Type} (member : String → σ → Reader σ) : Nat → Bool → σ → Reader σ
  | 0, _, _ => failHere .endInObject
  | fuel + 1, first, state => do
    if ← moreMembers first then
      let key ← string
      membersFrom member fuel false (← member key state)
    else pure state

/-- `membersFrom` with enough steps for the whole text. -/
def members {σ : Type} (member : String → σ → Reader σ) (state : σ) : Reader σ := do
  membersFrom member ((← remaining) + 1) true state

/-- The end of an object. -/
def objectEnd : Reader Unit := do
  match ← blank with
  | none => failHere .endInObject
  | some '\x7d' => skip
  | some ',' => failNext .trailingComma
  | some _ => failNext .trailingCharacters

/-! ## Any value -/

/-- A list whose opening bracket is the next character. -/
def listOf {α : Type} (item : Reader α) : Reader (List α) := do
  skip
  enclosed ']' (items item) listEnd

/-- An object whose opening brace is the next character. -/
def objectOf {σ : Type} (member : String → σ → Reader σ) (state : σ) : Reader σ := do
  skip
  enclosed '\x7d' (members member state) objectEnd

/-- A value that is neither list nor object and begins with the character given. -/
def scalar (next : Char) : Reader Json := do
  match next with
  | 'n' => skip; word ['u', 'l', 'l']; pure .null
  | 't' => skip; word ['r', 'u', 'e']; pure (.bool true)
  | 'f' => skip; word ['a', 'l', 's', 'e']; pure (.bool false)
  | '"' => pure (.text (← string))
  | c =>
    if c = '-' ∨ c.isDigit then pure (.number (← number)) else failNext .expectedValue

/-- Any value, with at most `depth` lists and objects open at once.  The members of an object
    end up sorted by key, and of members with one key the last is kept. -/
def value : Nat → Reader Json
  | 0 => do
    match ← blank with
    | none => failHere .endInValue
    | some '[' | some '\x7b' => failNext .nestedTooDeep
    | some c => scalar c
  | depth + 1 => do
    match ← blank with
    | none => failHere .endInValue
    | some '[' => pure (.list (← listOf (value depth)))
    | some '\x7b' =>
      let member (key : String) (read : List (String × Json)) := do
        colon
        let v ← value depth
        pure ((key, v) :: read)
      pure (ofMembers (← objectOf member []).reverse)
    | some c => scalar c

/-! ## Values nobody asked for -/

/-- Passes over a number whose sign, if any, has been passed. -/
def ignoredNumber : Reader Unit := do
  match ← peek with
  | some '0' =>
    skip
    if (← peekDigit).isSome then failNext .invalidNumber
  | _ =>
    if (← skipDigits (← remaining) 0) = 0 then failNext .invalidNumber
  if (← peek) = some '.' then
    skip
    if (← skipDigits (← remaining) 0) = 0 then failNext .invalidNumber
  if (← peek) = some 'e' ∨ (← peek) = some 'E' then
    skip
    if (← peek) = some '+' ∨ (← peek) = some '-' then skip
    if (← skipDigits (← remaining) 0) = 0 then failNext .invalidNumber

/-- Passes over a string whose opening quote has been passed. -/
def ignoredString : Nat → Reader Unit
  | 0 => failHere .endInString
  | fuel + 1 => do
    match ← peek with
    | none => failHere .endInString
    | some '"' => skip
    | some '\\' =>
      skip
      match ← peek with
      | none => failHere .endInString
      | some 'u' =>
        skip
        let _ ← fourHexDigits
        ignoredString fuel
      | some c =>
        if (shortEscape? c).isSome then skip; ignoredString fuel else failNext .invalidEscape
    | some c =>
      if c.toNat < 0x20 then failHere .controlCharacter else skip; ignoredString fuel

/-- A list or an object that is open. -/
inductive Open where
  | list
  | object
deriving DecidableEq

/-- What an end of the text inside it is called. -/
def Open.ended : Open → Cause
  | .list => .endInList
  | .object => .endInObject

mutual

/-- Passes over a value inside the lists and objects that are open, the innermost first, and
    over all that follows up to the end of the outermost. -/
def ignoredValue : Nat → List Open → Reader Unit
  | 0, _ => failHere .endInValue
  | fuel + 1, opened => do
    match ← blank with
    | none => failHere .endInValue
    | some '[' => skip; ignoredRest fuel false (.list :: opened)
    | some '\x7b' => skip; ignoredRest fuel false (.object :: opened)
    | some '"' =>
      skip
      ignoredString ((← remaining) + 1)
      ignoredRest fuel true opened
    | some 'n' => skip; word ['u', 'l', 'l']; ignoredRest fuel true opened
    | some 't' => skip; word ['r', 'u', 'e']; ignoredRest fuel true opened
    | some 'f' => skip; word ['a', 'l', 's', 'e']; ignoredRest fuel true opened
    | some c =>
      if c = '-' ∨ c.isDigit then
        if c = '-' then skip
        ignoredNumber
        ignoredRest fuel true opened
      else failNext .expectedValue

/-- What follows an opening bracket or, `after` a value, the value. -/
def ignoredRest : Nat → Bool → List Open → Reader Unit
  | 0, _, _ => failHere .endInValue
  | _, _, [] => pure ()
  | fuel + 1, after, innermost :: opened => do
    match ← blank with
    | none => failHere innermost.ended
    | some ']' =>
      if innermost = .list then skip; ignoredRest fuel true opened
      else ignoredNext fuel after innermost opened
    | some '\x7d' =>
      if innermost = .object then skip; ignoredRest fuel true opened
      else ignoredNext fuel after innermost opened
    | some ',' =>
      if after then
        skip
        ignoredNext fuel false innermost opened
      else ignoredNext fuel after innermost opened
    | some _ => ignoredNext fuel after innermost opened

/-- The next item or member; `after` a value a comma is missing. -/
def ignoredNext : Nat → Bool → Open → List Open → Reader Unit
  | 0, _, _, _ => failHere .endInValue
  | _, true, .list, _ => failNext .expectedCommaOrBracket
  | _, true, .object, _ => failNext .expectedCommaOrBrace
  | fuel + 1, false, .list, opened => ignoredValue fuel (.list :: opened)
  | fuel + 1, false, .object, opened => do
    match ← blank with
    | none => failHere .endInObject
    | some '"' =>
      skip
      ignoredString ((← remaining) + 1)
      colon
      ignoredValue fuel (.object :: opened)
    | some _ => failNext .keyNotString

end

/-- Passes over one value. -/
def ignored : Reader Unit := do
  ignoredValue (3 * (← remaining) + 3) []

/-! ## Whole texts -/

/-- Runs a reader on a whole text, after whose value only blanks may follow. -/
def run {α : Type} (r : Reader α) (text : String) : Except Error α :=
  let whole : Reader α := do
    let a ← r
    match ← blank with
    | none => pure a
    | some _ => failNext .trailingCharacters
  match whole (.start text) with
  | .done a _ => .ok a
  | .broken e => .error e
  | .misfit m _ => .error ⟨.misfit m, none⟩

end Reader

/-- The value a text denotes. -/
def parse (text : String) : Except Error Json :=
  Reader.run (Reader.value Reader.depthLimit) text

end FunctionCalling.Json
