/-
  What happens when a function is called.

  A handler is given the arguments as the text the model wrote, and the occasion on which it is
  entered.  An implemented handler reads the text in some form of its own and then either answers at
  once or after a pause; a declared one has nothing to run.  What a handler does may differ from one
  occasion to the next, for handlers look at clocks and at what they have done before; one that
  goes by its arguments alone is `Handler.Steady`.

  Most handlers read their arguments in the form of a shape (`Handler.ofShape`).  For these, blank
  arguments stand for an object without members.
-/
import FunctionCalling.Complaint
import FunctionCalling.Json.Shape.Text
import FunctionCalling.Text.Blank

namespace FunctionCalling

open FunctionCalling.Text

/-- What an implemented handler does once it has read its arguments. -/
inductive Activity where
  /-- Answers at once. -/
  | reply (text : String)
  /-- Answers after a pause. -/
  | pause (milliseconds : Nat) (text : String)
deriving DecidableEq, Repr

/-- The answer of an activity. -/
def Activity.text : Activity → String
  | reply text => text
  | pause _ text => text

/-- How long an activity takes, in milliseconds. -/
def Activity.duration : Activity → Nat
  | reply _ => 0
  | pause ms _ => ms

/-- An occasion on which a handler is entered. -/
structure Occasion where
  /-- Milliseconds since the beginning. -/
  moment : Nat
  /-- The place of the call among the calls of its message. -/
  place : Nat
deriving DecidableEq, Repr

/-- What runs when a function is called. -/
inductive Handler where
  /-- Nothing; the name is the one the function was declared under. -/
  | declared (name : String)
  /-- An activity that depends on the occasion and on the arguments, if they can be read; if not,
      the reason. -/
  | implemented (run : Occasion → String → Except String Activity)

/-- Arguments with blank ones read as an object without members. -/
def givenArguments (arguments : String) : String :=
  if isBlank arguments then "\x7b\x7d" else arguments

namespace Handler

/-- A handler that reads its arguments in the form of a shape. -/
def ofShape {α : Type} (shape : Json.Shape α) (f : α → Activity) : Handler :=
  .implemented fun _ text =>
    match shape.parse (givenArguments text) with
    | .error fault => .error fault.message
    | .ok args => .ok (f args)

/-- What a call on an occasion comes to: an activity, or a complaint about the call. -/
def start (handler : Handler) (occasion : Occasion) (arguments : String) :
    Except Complaint Activity :=
  match handler with
  | declared name => .error (.notImplemented name)
  | implemented run => (run occasion arguments).mapError .notReadable

/-- What the caller is given in the end, on the first of all occasions. -/
def answer (handler : Handler) (arguments : String) : String :=
  match handler.start ⟨0, 0⟩ arguments with
  | .error complaint => complaint.message
  | .ok activity => activity.text

/-- Whether what the handler does depends on its arguments alone. -/
def Steady (handler : Handler) : Prop :=
  ∀ o o' arguments, handler.start o arguments = handler.start o' arguments

end Handler

end FunctionCalling
