/-
  What can go wrong before anything is offered to a model.

  These are faults of the host's own set-up: names, manifests, settings and choices.  A model
  that asks for something impossible is not a fault of this kind; it is told so in a result (see
  `Complaint`).
-/
import FunctionCalling.Json.Error

namespace FunctionCalling

/-- Why a file cannot be read as text. -/
inductive ReadFault where
  | notFound
  | isDirectory
  | notDirectory
  | nameTooLong
  | invalidUtf8
  /-- Something else, in the words of the system. -/
  | other (details : String)
deriving DecidableEq, Repr

/-- A fault of the host's set-up. -/
inductive Error where
  /-- Functions are to be invoked automatically and there is no registry. -/
  | autoInvokeWithoutRegistry
  /-- A function to be invoked automatically is not registered. -/
  | functionNotAvailable (function : String)
  /-- A reference in settings names no registered function. -/
  | functionNotFound (reference : String)
  /-- A plugin of that name is registered already. -/
  | duplicatePlugin (name : String)
  /-- The plugin has a function of that name already. -/
  | duplicateFunction (plugin function : String)
  /-- A name is empty or holds characters that names may not hold. -/
  | invalidName (name : String)
  /-- A file cannot be read. -/
  | read (path : String) (fault : ReadFault)
  /-- A text is not the JSON that was asked for. -/
  | json (fault : Json.Error)
deriving DecidableEq, Repr

/-! ## Wording -/

/-- Why a file cannot be read, as the system says it. -/
def ReadFault.message : ReadFault → String
  | .notFound => "No such file or directory (os error 2)"
  | .isDirectory => "Is a directory (os error 21)"
  | .notDirectory => "Not a directory (os error 20)"
  | .nameTooLong => "File name too long (os error 36)"
  | .invalidUtf8 => "stream did not contain valid UTF-8"
  | .other details => details

/-- A fault, in words. -/
def Error.message : Error → String
  | .autoInvokeWithoutRegistry => "Auto-invocation is not supported when no kernel is provided."
  | .functionNotAvailable f => "The specified function " ++ f ++ " is not available in the kernel."
  | .functionNotFound f => "The specified function " ++ f ++ " was not found."
  | .duplicatePlugin p => "Plugin '" ++ p ++ "' is already registered"
  | .duplicateFunction p f =>
    "Function '" ++ f ++ "' is already registered in plugin '" ++ p ++ "'"
  | .invalidName n =>
    "Invalid name '" ++ n
      ++ "': must be non-empty and contain only ASCII letters, digits, or underscores"
  | .read path fault => "failed to read " ++ path ++ ": " ++ fault.message
  | .json fault => "failed to parse JSON: " ++ fault.message

example : (Error.duplicateFunction "Math" "Add").message =
    "Function 'Add' is already registered in plugin 'Math'" := by decide +kernel

end FunctionCalling
