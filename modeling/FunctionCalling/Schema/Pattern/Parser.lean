/-
  Regular expressions read from text.

  The grammar, from the outside in: alternatives separated by `|`; a sequence of pieces; a piece
  is an atom with an optional repetition (`*`, `+`, `?`, `{m}`, `{m,}`, `{m,n}`, each possibly
  followed by `?`, which changes nothing about whether a text matches); an atom is a character, an
  escape, a set in brackets, `.`, an anchor or a group.  A text outside the grammar is no pattern.
-/
import FunctionCalling.Schema.Pattern

namespace FunctionCalling.Schema.Pattern

/-! ## Small parts -/

/-- The value of a hexadecimal digit. -/
def hexValue? (c : Char) : Option Nat :=
  if c.isDigit then some (c.toNat - '0'.toNat)
  else if 'a' ≤ c ∧ c ≤ 'f' then some (c.toNat - 'a'.toNat + 10)
  else if 'A' ≤ c ∧ c ≤ 'F' then some (c.toNat - 'A'.toNat + 10)
  else none

/-- The character with a code given in hexadecimal. -/
def charOfHex? (digits : List Char) : Option Char := do
  if digits.isEmpty then none
  let values ← digits.mapM hexValue?
  let n := values.foldl (fun n d => n * 16 + d) 0
  if n.isValidChar then some (Char.ofNat n) else none

/-- A decimal number and what follows it. -/
def number? (text : List Char) : Option (Nat × List Char) :=
  let digits := text.takeWhile Char.isDigit
  if digits.isEmpty then none
  else some (digits.foldl (fun n c => n * 10 + (c.toNat - '0'.toNat)) 0, text.drop digits.length)

/-- The set that a letter stands for after a backslash. -/
def classEscape? : Char → Option CharClass
  | 'd' => some ⟨false, digitRanges⟩
  | 'D' => some ⟨true, digitRanges⟩
  | 'w' => some ⟨false, wordRanges⟩
  | 'W' => some ⟨true, wordRanges⟩
  | 's' => some ⟨false, spaceRanges⟩
  | 'S' => some ⟨true, spaceRanges⟩
  | _ => none

/-- The character that an escape stands for, its backslash passed, and what follows it.  A letter
    or digit without a meaning of its own cannot be escaped. -/
def charEscape? : List Char → Option (Char × List Char)
  | 't' :: rest => some ('\t', rest)
  | 'n' :: rest => some ('\n', rest)
  | 'r' :: rest => some ('\r', rest)
  | 'f' :: rest => some ('\x0c', rest)
  | 'v' :: rest => some ('\x0b', rest)
  | '0' :: rest => some ('\x00', rest)
  | 'x' :: '\x7b' :: rest | 'u' :: '\x7b' :: rest => do
    let digits := rest.takeWhile (· ≠ '\x7d')
    let c ← charOfHex? digits
    match rest.drop digits.length with
    | _ :: rest => some (c, rest)
    | [] => none
  | 'x' :: rest => do some (← charOfHex? (rest.take 2), rest.drop 2)
  | 'u' :: rest => do some (← charOfHex? (rest.take 4), rest.drop 4)
  | c :: rest => if c.isAlphanum then none else some (c, rest)
  | [] => none

/-! ## Sets in brackets -/

/-- A set without complement, when every part of it can be written as ranges. -/
def complementRanges (ranges : List (Char × Char)) : List (Char × Char) :=
  let sorted := ranges.mergeSort fun a b => a.1 ≤ b.1
  let gap (low high : Nat) : List (Char × Char) :=
    if low < high then
      -- the surrogates lie in no gap
      let low := if 0xD800 ≤ low ∧ low ≤ 0xDFFF then 0xE000 else low
      let top := if 0xD800 < high ∧ high ≤ 0xE000 then 0xD7FF else high - 1
      if low ≤ top then [(Char.ofNat low, Char.ofNat top)] else []
    else []
  let (found, next) := sorted.foldl (fun (found, next) (lo, hi) =>
    (found ++ gap next lo.toNat, max next (hi.toNat + 1))) ([], 0)
  found ++ gap next 0x110000

/-- One end of a range or a whole set, and what follows it. -/
def setPart? : List Char → Option ((Char ⊕ CharClass) × List Char)
  | '\\' :: 'b' :: rest => some (.inl '\x08', rest)
  | '\\' :: c :: rest =>
    match classEscape? c with
    | some s => some (.inr s, rest)
    | none => (charEscape? (c :: rest)).map fun (c, rest) => (.inl c, rest)
  | '\\' :: [] => none
  | c :: rest => some (.inl c, rest)
  | [] => none

/-- The ranges of a set up to its closing bracket, and what follows it. -/
def setRanges? : Nat → Bool → List Char → Option (List (Char × Char) × List Char)
  | 0, _, _ => none
  | _, _, [] => none
  | fuel + 1, first, text =>
    if text.head? = some ']' ∧ !first then some ([], text.drop 1) else do
      let (part, rest) ← setPart? text
      match part with
      | .inr s =>
        let (ranges, rest) ← setRanges? fuel false rest
        some ((if s.negated then complementRanges s.ranges else s.ranges) ++ ranges, rest)
      | .inl low =>
        match rest with
        | '-' :: c :: more =>
          if c = ']' then
            let (ranges, rest) ← setRanges? fuel false rest
            some ((low, low) :: ranges, rest)
          else
            match ← setPart? (c :: more) with
            | (.inl high, rest) =>
              if high < low then none else
                let (ranges, rest) ← setRanges? fuel false rest
                some ((low, high) :: ranges, rest)
            | (.inr _, _) => none
        | rest =>
          let (ranges, rest) ← setRanges? fuel false rest
          some ((low, low) :: ranges, rest)

/-- A set whose opening bracket has been passed, and what follows it. -/
def set? (text : List Char) : Option (CharClass × List Char) :=
  match text with
  | '^' :: rest => (setRanges? (rest.length + 1) true rest).map fun (r, t) => (⟨true, r⟩, t)
  | text => (setRanges? (text.length + 1) true text).map fun (r, t) => (⟨false, r⟩, t)

/-! ## Repetition -/

/-- The bounds of a repetition, if one follows, and what follows it. -/
def bounds? : List Char → Option (Option (Nat × Option Nat) × List Char)
  | '*' :: rest => some (some (0, none), rest)
  | '+' :: rest => some (some (1, none), rest)
  | '?' :: rest => some (some (0, some 1), rest)
  | '\x7b' :: rest => do
    let (low, rest) ← number? rest
    match rest with
    | '\x7d' :: rest => some (some (low, some low), rest)
    | ',' :: '\x7d' :: rest => some (some (low, none), rest)
    | ',' :: rest =>
      let (high, rest) ← number? rest
      match rest with
      | '\x7d' :: rest => if high < low then none else some (some (low, some high), rest)
      | _ => none
    | _ => none
  | rest => some (none, rest)

/-- A pattern with the repetitions that follow it. -/
def repetitions? : Nat → Pattern → List Char → Option (Pattern × List Char)
  | 0, _, _ => none
  | fuel + 1, p, text => do
    match ← bounds? text with
    | (none, rest) => some (p, rest)
    | (some (low, high), rest) =>
      let rest := if rest.head? = some '?' then rest.drop 1 else rest
      repetitions? fuel (.repeated p low high) rest

/-! ## The grammar -/

/-- How a group begins, its opening bracket passed: what it does with its body, and what
    follows. -/
def groupKind? : List Char → Option ((Pattern → Pattern) × List Char)
  | '?' :: ':' :: rest => some (id, rest)
  | '?' :: '=' :: rest => some (.ahead false, rest)
  | '?' :: '!' :: rest => some (.ahead true, rest)
  | '?' :: 'P' :: '<' :: rest | '?' :: '<' :: rest =>
    let name := rest.takeWhile (· ≠ '>')
    if name.isEmpty ∨ !name.all (fun c => c.isAlphanum || c == '_') then none
    else match rest.drop name.length with
      | _ :: rest => some (id, rest)
      | [] => none
  | '?' :: _ => none
  | rest => some (id, rest)

mutual

/-- Alternatives up to a closing bracket or the end of the text. -/
def alternatives? : Nat → List Char → Option (Pattern × List Char)
  | 0, _ => none
  | fuel + 1, text => do
    let (p, rest) ← sequence? fuel text
    match rest with
    | '|' :: rest =>
      let (q, rest) ← alternatives? fuel rest
      some (.either p q, rest)
    | rest => some (p, rest)

/-- Pieces one after the other. -/
def sequence? : Nat → List Char → Option (Pattern × List Char)
  | 0, _ => none
  | fuel + 1, text =>
    match text with
    | [] => some (.empty, [])
    | '|' :: _ => some (.empty, text)
    | ')' :: _ => some (.empty, text)
    | text => do
      let (p, rest) ← atom? fuel text
      let (p, rest) ← repetitions? (rest.length + 1) p rest
      let (q, rest) ← sequence? fuel rest
      some (.both p q, rest)

/-- An atom. -/
def atom? : Nat → List Char → Option (Pattern × List Char)
  | 0, _ => none
  | fuel + 1, text =>
    match text with
    | [] => none
    | '^' :: rest => some (.start, rest)
    | '$' :: rest => some (.stop, rest)
    | '.' :: rest => some (.one ⟨true, [('\n', '\n')]⟩, rest)
    | '[' :: rest => do
      let (s, rest) ← set? rest
      some (.one s, rest)
    | '(' :: rest => do
      let (wrap, rest) ← groupKind? rest
      let (p, rest) ← alternatives? fuel rest
      match rest with
      | ')' :: rest => some (wrap p, rest)
      | _ => none
    | '\\' :: 'b' :: rest => some (.edge false, rest)
    | '\\' :: 'B' :: rest => some (.edge true, rest)
    | '\\' :: c :: rest =>
      match classEscape? c with
      | some s => some (.one s, rest)
      | none => do
        let (c, rest) ← charEscape? (c :: rest)
        some (.one ⟨false, [(c, c)]⟩, rest)
    | c :: rest =>
      if "\\*+?\x7b".toList.contains c then none else some (.one ⟨false, [(c, c)]⟩, rest)

end

/-- The pattern a text denotes, if it denotes one. -/
def parse? (text : String) : Option Pattern :=
  match alternatives? (3 * text.length + 3) text.toList with
  | some (p, []) => some p
  | _ => none

end FunctionCalling.Schema.Pattern
