/-
  What a model is told when a call gives no result.

  The model could mend each of these, so the conversation goes on: the text stands where the
  result would stand.  Every text begins with `Error:`, and that beginning is what `isError`
  looks for (`isError_message`).
-/
import FunctionCalling.Json.Error
import FunctionCalling.Schema.Validator
import FunctionCalling.Text.Quoted

namespace FunctionCalling

open FunctionCalling.Text

/-- Why a call gives no result. -/
inductive Complaint where
  /-- No function is registered under the name. -/
  | notAvailable (fqn : String)
  /-- The function is registered but was not offered. -/
  | notOffered (fqn : String)
  /-- The arguments are no JSON. -/
  | notJson (function : String) (fault : Json.Error)
  /-- The arguments do not satisfy the schema of the function. -/
  | notValid (function : String) (findings : List Schema.Finding)
  /-- The arguments are not of the type that the function takes, as its reader puts it. -/
  | notReadable (reason : String)
  /-- The function is only declared. -/
  | notImplemented (function : String)
  /-- The function did not finish within a number of milliseconds. -/
  | timedOut (fqn : String) (limit : Nat)

namespace Complaint

/-- Milliseconds as whole seconds; half a second goes to the even neighbour. -/
def roundedSeconds (ms : Nat) : Nat :=
  let s := ms / 1000
  let left := ms % 1000
  if left < 500 ∨ left = 500 ∧ s % 2 = 0 then s else s + 1

/-- The text after `Error: `. -/
def body : Complaint → String
  | notAvailable fqn =>
    "function '" ++ fqn ++ "' is not available. Call one of the functions you were given."
  | notOffered fqn => "function '" ++ fqn ++ "' was not offered for this request."
  | notJson f e =>
    "invalid JSON arguments for function '" ++ f ++ "': " ++ e.message
      ++ ". Please provide valid JSON matching the function's parameter schema."
  | notValid f findings =>
    "argument validation failed for function '" ++ f ++ "':\n"
      ++ join "\n" (findings.map Schema.Finding.line)
      ++ "\nPlease fix the arguments and try again."
  | notReadable reason =>
    "invalid function arguments: " ++ reason
      ++ ". Please provide valid JSON matching the function's parameter schema."
  | notImplemented f =>
    "function '" ++ f ++ "' is declared but has no implementation in this host"
  | timedOut fqn limit =>
    "function '" ++ fqn ++ "' timed out after " ++ toString (roundedSeconds limit)
      ++ " seconds."

/-- What the model is told. -/
def message (c : Complaint) : String :=
  "Error: " ++ c.body

end Complaint

/-- Whether a result reports a failure. -/
def isError (result : String) : Bool :=
  "Error:".toList.isPrefixOf result.toList

theorem Complaint.isError_message (c : Complaint) : isError c.message = true := by
  simp [isError, message]

/-- What a text begins with, it begins with when more follows. -/
theorem Text.head?_toList_append {s t : String} {c : Char} (h : s.toList.head? = some c) :
    (s ++ t).toList.head? = some c := by
  rw [String.toList_append, List.head?_append, h, Option.some_or]

/-- Complaints that begin otherwise are worded otherwise. -/
theorem Complaint.message_ne_of_head? {c c' : Complaint} {a b : Char}
    (h : c.body.toList.head? = some a) (h' : c'.body.toList.head? = some b) (hne : a ≠ b) :
    c.message ≠ c'.message := by
  intro heq
  have hbody : c.body.toList = c'.body.toList := by
    simpa [message] using congrArg String.toList heq
  rw [hbody, h'] at h
  exact hne (Option.some.inj h).symm

example : Complaint.roundedSeconds 500 = 0 := by decide
example : Complaint.roundedSeconds 1500 = 2 := by decide
example : Complaint.roundedSeconds 2500 = 2 := by decide

end FunctionCalling
