/-
  Reading a text from left to right with a position.

  A `Cursor` is the text that is left and the position reached.  A `Reader` consumes some of it
  and ends in one of three ways:

  1. `done`: a value and what is left;
  2. `broken`: an error at a known position, which is final;
  3. `misfit`: something well-formed but unwanted, whose position is not settled yet.  It keeps
     the cursor, because the list or object around it still looks for its closing bracket and
     the position is then the place reached (`place`).
-/
import FunctionCalling.Json.Error

namespace FunctionCalling.Json

/-- The text that is left, the number of its characters, and the position reached. -/
structure Cursor where
  rest : List Char
  left : Nat
  position : Position
deriving Repr

/-- How reading ends. -/
inductive Outcome (α : Type) where
  | done (value : α) (rest : Cursor)
  | broken (error : Error)
  | misfit (fault : Misfit) (rest : Cursor)

/-- Something that reads an `α` from a cursor. -/
def Reader (α : Type) : Type :=
  Cursor → Outcome α

namespace Position

/-- The position after a whole character. -/
def past (p : Position) (c : Char) : Position :=
  if c = '\n' then ⟨p.line + 1, 0⟩ else ⟨p.line, p.column + c.utf8Size⟩

/-- The position after the first byte of a character. -/
def pastByte (p : Position) (c : Char) : Position :=
  if c = '\n' then ⟨p.line + 1, 0⟩ else ⟨p.line, p.column + 1⟩

/-- The position after a number of bytes, which may end inside a character; nothing when the
    text has fewer. -/
def pastBytes (p : Position) : Nat → List Char → Option Position
  | 0, _ => some p
  | _, [] => none
  | n, c :: rest =>
    if c.utf8Size ≤ n then (p.past c).pastBytes (n - c.utf8Size) rest
    else some ⟨p.line, p.column + n⟩

/-- The position after a whole text. -/
def pastAll (p : Position) (rest : List Char) : Position :=
  rest.foldl past p

end Position

/-- A cursor at the start of a text. -/
def Cursor.start (text : String) : Cursor :=
  ⟨text.toList, text.length, ⟨1, 0⟩⟩

namespace Reader

/-! ## Composing readers -/

instance : Monad Reader where
  pure a := fun c => .done a c
  bind r f := fun c =>
    match r c with
    | .done a c => f a c
    | .broken e => .broken e
    | .misfit m c => .misfit m c

/-- The next character, which stays where it is. -/
def peek : Reader (Option Char) :=
  fun c => .done c.rest.head? c

/-- The number of characters left; it bounds the steps of every loop. -/
def remaining : Reader Nat :=
  fun c => .done c.left c

/-- Passes one character. -/
def skip : Reader Unit := fun c =>
  match c.rest with
  | [] => .done () c
  | d :: rest => .done () ⟨rest, c.left - 1, c.position.past d⟩

/-- Passes the characters of a list that the text is known to begin with. -/
def skipMany : Nat → Reader Unit
  | 0 => pure ()
  | n + 1 => do skip; skipMany n

/-! ## Failing -/

/-- An error at the position reached. -/
def failHere {α : Type} (cause : Cause) : Reader α :=
  fun c => .broken ⟨cause, some c.position⟩

/-- An error just past the first byte of the next character, or at the end of the text. -/
def failNext {α : Type} (cause : Cause) : Reader α := fun c =>
  match c.rest with
  | [] => .broken ⟨cause, some c.position⟩
  | d :: _ => .broken ⟨cause, some (c.position.pastByte d)⟩

/-- A misfit whose position is not settled. -/
def unfit {α : Type} (fault : Misfit) : Reader α :=
  fun c => .misfit fault c

/-- Settles the position of a misfit: the place reached. -/
def place {α : Type} (r : Reader α) : Reader α := fun c =>
  match r c with
  | .misfit m c => .broken ⟨.misfit m, some c.position⟩
  | o => o

/-! ## White space and words -/

/-- Passes spaces, tabs and line breaks; the next character stays where it is. -/
def blankFrom : Nat → Reader (Option Char)
  | 0 => peek
  | fuel + 1 => do
    match ← peek with
    | some ' ' | some '\t' | some '\n' | some '\r' => skip; blankFrom fuel
    | next => pure next

/-- `blankFrom` with enough steps for the whole text. -/
def blank : Reader (Option Char) := do
  blankFrom (← remaining)

/-- The rest of a word whose first letter has been passed. -/
def word : List Char → Reader Unit
  | [] => pure ()
  | expected :: more => do
    match ← peek with
    | none => failHere .endInValue
    | some c => if c = expected then skip; word more else failNext .expectedWord

/-! ## Lists and objects -/

/-- Reads the inside of a list or object and then its end.  After a misfit inside, the blanks
    and the closing bracket are still passed where they follow, and the position of the misfit
    is the place reached. -/
def enclosed {α : Type} (close : Char) (inside : Reader α) (ending : Reader Unit) :
    Reader α := fun c =>
  match inside c with
  | .done a c => (do ending; pure a : Reader α) c
  | .broken e => .broken e
  | .misfit m c =>
    (do if (← blank) = some close then skip
        place (unfit m) : Reader α) c

end Reader

end FunctionCalling.Json
