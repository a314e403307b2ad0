/-
  Regular expressions as the keyword `pattern` uses them: does some part of a text match?

  A pattern is matched at a `Site`, the text that is left with the character before it.
  `Pattern.sites` lists the sites at which a match that starts at a given site can end, no two
  with the same text left.  Repetition works on such lists: one round takes every site reached
  so far one step further, and as many rounds are made as the text has characters, which is
  enough because a round that reaches nothing new adds nothing.
-/

namespace FunctionCalling.Schema

/-- A set of characters: ranges, possibly complemented. -/
structure CharClass where
  negated : Bool
  ranges : List (Char × Char)
deriving DecidableEq, Repr

/-- Whether a character belongs to the set. -/
def CharClass.contains (s : CharClass) (c : Char) : Bool :=
  s.negated != s.ranges.any fun (lo, hi) => lo ≤ c && c ≤ hi

/-- A regular expression. -/
inductive Pattern where
  /-- Matches the empty text. -/
  | empty
  /-- Matches one character of a set. -/
  | one (chars : CharClass)
  /-- Matches one after the other. -/
  | both (first second : Pattern)
  /-- Matches either. -/
  | either (left right : Pattern)
  /-- Matches from `low` to `high` repetitions, without an upper bound for `none`. -/
  | repeated (body : Pattern) (low : Nat) (high : Option Nat)
  /-- Matches at the start of the text. -/
  | start
  /-- Matches at the end of the text. -/
  | stop
  /-- Matches where a word begins or ends, or, negated, where none does. -/
  | edge (negated : Bool)
  /-- Matches without consuming anything where the body matches, or, negated, does not. -/
  | ahead (negated : Bool) (body : Pattern)
deriving Repr

/-- A place in a text: the character before it and the text after it. -/
structure Site where
  before : Option Char
  after : List Char
deriving Repr

namespace Pattern

/-- The ranges of digits. -/
def digitRanges : List (Char × Char) := [('0', '9')]

/-- The ranges of word characters. -/
def wordRanges : List (Char × Char) := [('0', '9'), ('A', 'Z'), ('_', '_'), ('a', 'z')]

/-- The ranges of white space. -/
def spaceRanges : List (Char × Char) :=
  [('\t', '\r'), (' ', ' '), ('\u00a0', '\u00a0'), ('\u1680', '\u1680'), ('\u2000', '\u200a'),
   ('\u2028', '\u2029'), ('\u202f', '\u202f'), ('\u205f', '\u205f'), ('\u3000', '\u3000'),
   ('\ufeff', '\ufeff')]

/-- Whether a character that may not be there is a word character. -/
def isWord : Option Char → Bool
  | none => false
  | some c => (CharClass.mk false wordRanges).contains c

/-- Sites without those that have the same text left as an earlier one. -/
def distinct (sites : List Site) : List Site :=
  sites.foldl (fun kept s =>
    if kept.any fun t => t.after.length == s.after.length then kept else kept ++ [s]) []

/-- Makes a number of rounds from the sites reached so far, of which the first `low` do not
    count yet, and collects the sites that do. -/
def rounds (step : Site → List Site) : Nat → Nat → List Site → List Site → List Site
  | 0, low, reached, found => if low = 0 then distinct (found ++ reached) else found
  | n + 1, low, reached, found =>
    let found := if low = 0 then distinct (found ++ reached) else found
    rounds step n (low - 1) (distinct (reached.flatMap step)) found

/-- Where a match that starts at a site can end. -/
def sites : Pattern → Site → List Site
  | .empty, s => [s]
  | .one chars, s =>
    match s.after with
    | [] => []
    | c :: rest => if chars.contains c then [⟨some c, rest⟩] else []
  | .both first second, s => distinct ((first.sites s).flatMap second.sites)
  | .either left right, s => distinct (left.sites s ++ right.sites s)
  | .repeated body low high, s =>
    let enough := low + s.after.length + 1
    rounds body.sites (min (high.getD enough) enough) low [s] []
  | .start, s => if s.before.isNone then [s] else []
  | .stop, s => if s.after.isEmpty then [s] else []
  | .edge negated, s =>
    if (isWord s.before != isWord s.after.head?) != negated then [s] else []
  | .ahead negated body, s => if (body.sites s).isEmpty == negated then [s] else []

/-- Whether a match starts at this place or at a later one. -/
def matchesFrom (p : Pattern) : Option Char → List Char → Bool
  | before, [] => !(p.sites ⟨before, []⟩).isEmpty
  | before, c :: rest =>
    !(p.sites ⟨before, c :: rest⟩).isEmpty || p.matchesFrom (some c) rest

/-- Whether some part of a text matches. -/
def isFoundIn (p : Pattern) (text : String) : Bool :=
  p.matchesFrom none text.toList

end Pattern

end FunctionCalling.Schema
